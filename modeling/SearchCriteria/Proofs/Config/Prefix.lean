import SearchCriteria.Proofs.Config.Layers
import SearchCriteria.Proofs.Config.Quoting
import SearchCriteria.Proofs.Number.Numeral

/-! The prefix of collections. A file gives it as it is written between quotes. A variable gives it
as what its value stands for, which is written anew: so the text of a switch or of a number may
change, and any other text stays as it is. -/
namespace SearchCriteria

namespace Text

def isSwitchChar (c : Char) : Bool := "truefals".toList.contains c

theorem isAlpha_of_isSwitchChar {c : Char} (h : isSwitchChar c = true) :
    c.isAlpha = true ∧ c.toNat < 0x80 ∧ c.toNat ≠ 0x6B := by
  have hall : "truefals".toList.all
      (fun d => d.isAlpha && d.toNat < 0x80 && d.toNat != 0x6B) = true := by decide
  have hc := List.all_eq_true.1 hall c (List.contains_iff_mem.1 h)
  simpa [and_assoc] using hc

/-- Of the small letters of other alphabets only one is a letter of English. -/
theorem small_caseRuns : ∀ r ∈ caseRuns, 0x80 ≤ r.small ∨ (r.small = 0x6B ∧ r.first = r.last) := by
  decide +kernel

theorem small_of_caseRuns {n m : Nat} (h : caseRuns.findSome? (fun r => r.small? n) = some m) :
    0x80 ≤ m ∨ m = 0x6B := by
  obtain ⟨r, hr, hsmall⟩ := List.exists_of_findSome?_eq_some h
  unfold CaseRun.small? at hsmall
  split at hsmall
  · next hrun =>
    simp only [Bool.and_eq_true, decide_eq_true_eq] at hrun
    have hm := Option.some.inj hsmall
    have hletters := small_caseRuns r hr
    omega
  · cases hsmall

theorem exists_smallForm {c : Char} (h : c.isAlpha = false) :
    ∃ d ∈ smallForm c, isSwitchChar d = false := by
  have hself : isSwitchChar c = false := by
    cases hc : isSwitchChar c with
    | false => rfl
    | true => rw [(isAlpha_of_isSwitchChar hc).1] at h; cases h
  unfold smallForm
  split
  · have hupper : ¬ c.isUpper = true := by
      intro hupper
      simp [isAlpha_eq, hupper] at h
    exact ⟨c, by simp [Decimal.toLower_of_not_isUpper hupper], hself⟩
  split
  · exact ⟨'\u0307', by simp, by decide⟩
  split
  · next n hn =>
    refine ⟨Char.ofNat n, by simp, ?_⟩
    cases hswitch : isSwitchChar (Char.ofNat n) with
    | false => rfl
    | true =>
      have hletter := isAlpha_of_isSwitchChar hswitch
      have hletters := small_of_caseRuns hn
      by_cases hvalid : n.isValidChar
      · have hcode : (Char.ofNat n).toNat = n := by
          rw [Char.ofNat, dif_pos hvalid]
          rfl
        omega
      · -- What is no code point stands for the null character.
        have hnone : Char.ofNat n = '\x00' := by
          rw [Char.ofNat, dif_neg hvalid]
          rfl
        rw [hnone] at hswitch
        cases hswitch
  · exact ⟨c, by simp, hself⟩

theorem exists_lowerFrom {cs : List Char} {c : Char} (hc : c ∈ cs) (h : c.isAlpha = false)
    (before : List Char) : ∃ d ∈ lowerFrom before cs, isSwitchChar d = false := by
  induction cs generalizing before with
  | nil => cases hc
  | cons a cs ih =>
    rw [lowerFrom]
    rcases List.mem_cons.1 hc with rfl | hc
    · split
      · refine ⟨smallSigma before cs, by simp, ?_⟩
        unfold smallSigma
        split <;> decide
      · obtain ⟨d, hd, hswitch⟩ := exists_smallForm h
        exact ⟨d, by simp [hd], hswitch⟩
    · obtain ⟨d, hd, hswitch⟩ := ih hc (a :: before)
      exact ⟨d, by simp [hd], hswitch⟩

theorem isAlpha_of_isDigit {c : Char} (h : c.isDigit = true) : c.isAlpha = false := by
  have hcode : 48 ≤ c.toNat ∧ c.toNat ≤ 57 := by
    simpa [Char.isDigit, UInt32.le_iff_toNat_le] using h
  have hlow : ∀ n < 58, (Char.ofNat n).isAlpha = false := by decide
  have hc := hlow c.toNat (by omega)
  rwa [Char.ofNat_toNat] at hc

theorem lowercase_ne_boolText {s : String} {c : Char} (hc : c ∈ s.toList) (h : c.isAlpha = false)
    (b : Bool) : lowercase s ≠ Setting.boolText b := by
  intro heq
  obtain ⟨d, hd, hswitch⟩ := exists_lowerFrom hc h []
  have hmem : d ∈ (Setting.boolText b).toList := by
    rw [← heq, lowercase, String.toList_ofList]
    exact hd
  have hall : ∀ b, (Setting.boolText b).toList.all isSwitchChar = true := by decide
  rw [List.all_eq_true.1 (hall b) d hmem] at hswitch
  cases hswitch

end Text

namespace Setting

variable {v : String} {n : Int} {x : Double}

/-- The text is the name of no switch, in whatever case. -/
def NoSwitch (v : String) : Prop := ∀ b, Text.lowercase v ≠ boolText b

def NoInteger (v : String) : Prop :=
  ∀ n, Decimal.readInteger? v.toList = some n → isInt64 n = false

theorem ofVariable_switch {b : Bool} (h : Text.lowercase v = boolText b) :
    ofVariable v = bool b := by
  cases b <;> simp [ofVariable, h, boolText]

theorem ofVariable_int (hword : NoSwitch v) (hn : Decimal.readInteger? v.toList = some n)
    (hfits : isInt64 n = true) : ofVariable v = int n := by
  have htrue : Text.lowercase v ≠ "true" := hword true
  have hfalse : Text.lowercase v ≠ "false" := hword false
  simp [ofVariable, htrue, hfalse, hn, hfits]

theorem ofVariable_float (hword : NoSwitch v) (hwide : NoInteger v)
    (hx : Double.ofText? v = some x) : ofVariable v = float x := by
  have htrue : Text.lowercase v ≠ "true" := hword true
  have hfalse : Text.lowercase v ≠ "false" := hword false
  cases hn : Decimal.readInteger? v.toList with
  | none => simp [ofVariable, htrue, hfalse, hn, hx]
  | some n => simp [ofVariable, htrue, hfalse, hn, hwide n hn, hx]

theorem ofVariable_text (hword : NoSwitch v) (hx : Double.ofText? v = none) :
    ofVariable v = text v := by
  have htrue : Text.lowercase v ≠ "true" := hword true
  have hfalse : Text.lowercase v ≠ "false" := hword false
  cases hn : Decimal.readInteger? v.toList with
  | none => simp [ofVariable, htrue, hfalse, hn, hx]
  | some n =>
    have hsome := Decimal.readWith?_isSome_of_readInteger? hn Double.ofRatio
    rw [← Double.ofText?, hx] at hsome
    cases hsome

/-- The four things that a text may be, in the order in which they are tried. -/
theorem reading_cases (v : String) :
    (∃ b, Text.lowercase v = boolText b) ∨
      NoSwitch v ∧ ((∃ n, Decimal.readInteger? v.toList = some n ∧ isInt64 n = true) ∨
        NoInteger v ∧ ((∃ x, Double.ofText? v = some x) ∨ Double.ofText? v = none)) := by
  by_cases hswitch : ∃ b, Text.lowercase v = boolText b
  · exact .inl hswitch
  have hword : NoSwitch v := fun b hb => hswitch ⟨b, hb⟩
  by_cases hfits : ∃ n, Decimal.readInteger? v.toList = some n ∧ isInt64 n = true
  · exact .inr ⟨hword, .inl hfits⟩
  have hwide : NoInteger v := fun n hn => by simpa using fun h => hfits ⟨n, hn, h⟩
  cases hx : Double.ofText? v with
  | none => exact .inr ⟨hword, .inr ⟨hwide, .inr rfl⟩⟩
  | some x => exact .inr ⟨hword, .inr ⟨hwide, .inl ⟨x, rfl⟩⟩⟩

/-- The text that a variable gives in the end, written anew from what its value stands for. -/
def variableText (v : String) : String := ((ofVariable v).asText?).getD ""

theorem variableText_switch {b : Bool} (h : Text.lowercase v = boolText b) :
    variableText v = boolText b := by
  rw [variableText, ofVariable_switch h]
  rfl

theorem variableText_int (hword : NoSwitch v) (hn : Decimal.readInteger? v.toList = some n)
    (hfits : isInt64 n = true) : variableText v = toString n := by
  rw [variableText, ofVariable_int hword hn hfits]
  rfl

theorem variableText_float (hword : NoSwitch v) (hwide : NoInteger v)
    (hx : Double.ofText? v = some x) : variableText v = x.text := by
  rw [variableText, ofVariable_float hword hwide hx]
  rfl

theorem variableText_text (hword : NoSwitch v) (hx : Double.ofText? v = none) :
    variableText v = v := by
  rw [variableText, ofVariable_text hword hx]
  rfl

theorem asText?_ofVariable (v : String) : (ofVariable v).asText? = some (variableText v) := by
  rcases reading_cases v with ⟨b, hb⟩ | ⟨hword, ⟨n, hn, hfits⟩ | ⟨hwide, ⟨x, hx⟩ | hx⟩⟩
  · rw [ofVariable_switch hb, variableText_switch hb, asText?]
  · rw [ofVariable_int hword hn hfits, variableText_int hword hn hfits, asText?]
  · rw [ofVariable_float hword hwide hx, variableText_float hword hwide hx, asText?]
  · rw [ofVariable_text hword hx, variableText_text hword hx, asText?]

/-- The texts that come through as they are: the switches and the whole numbers of 64 bits as they
are written, and whatever is neither, unless it is another number that is written differently. -/
theorem variableText_eq_iff (v : String) :
    variableText v = v ↔
      (∃ b, v = boolText b) ∨ (∃ n, isInt64 n = true ∧ v = toString n) ∨
      (NoSwitch v ∧ NoInteger v ∧ ∀ x, Double.ofText? v = some x → v = x.text) := by
  constructor
  · intro hkept
    rcases reading_cases v with ⟨b, hb⟩ | ⟨hword, ⟨n, hn, hfits⟩ | ⟨hwide, -⟩⟩
    · exact .inl ⟨b, hkept.symm.trans (variableText_switch hb)⟩
    · exact .inr (.inl ⟨n, hfits, hkept.symm.trans (variableText_int hword hn hfits)⟩)
    · exact .inr (.inr ⟨hword, hwide, fun x hx =>
        hkept.symm.trans (variableText_float hword hwide hx)⟩)
  · rintro (⟨b, rfl⟩ | ⟨n, hfits, rfl⟩ | ⟨hword, hwide, hwritten⟩)
    · have hsmall : ∀ b, Text.lowercase (boolText b) = boolText b := by decide +kernel
      exact variableText_switch (hsmall b)
    · -- A numeral has a digit, and the names of the switches have none.
      have hread := readInteger?_toString n
      obtain ⟨d, hd, hdigit⟩ := Decimal.exists_isDigit_of_readInteger? hread
      have hword : NoSwitch (toString n) :=
        Text.lowercase_ne_boolText hd (Text.isAlpha_of_isDigit hdigit)
      exact variableText_int hword hread hfits
    · cases hx : Double.ofText? v with
      | none => exact variableText_text hword hx
      | some x => exact (variableText_float hword hwide hx).trans (hwritten x hx).symm

theorem variableText_of_mem {c : Char} (hc : c ∈ v.toList) (h : isNumeralChar c = false) :
    variableText v = v := by
  have halpha : c.isAlpha = false := by
    simp only [isNumeralChar, Char.isAlphanum, Bool.or_eq_false_iff] at h
    exact h.1.1.1.1
  refine (variableText_eq_iff v).2 (.inr (.inr
    ⟨Text.lowercase_ne_boolText hc halpha, fun n hn => ?_, fun x hx => ?_⟩))
  · rw [Decimal.isNumeralChar_of_readInteger? hn hc] at h
    cases h
  · rw [Decimal.isNumeralChar_of_readWith? hx hc] at h
    cases h

end Setting

open Setting

namespace SearchConfig

def prefixVariable : String := "LIFEGUARD__SEARCH__COLLECTION_PREFIX"

theorem variablePart?_prefixVariable (name v : String) :
    variablePart? name [(prefixVariable, v)] =
      if name = "collection_prefix" then some (ofVariable v) else none := by
  have henv : environment [(prefixVariable, v)] = [] ++ [(prefixVariable, v)] := rfl
  rw [variablePart?, henv, assigned?_concat, prefixVariable, variablePath?_collectionPrefix]
  by_cases h : name = "collection_prefix"
  · simp [h]
  · simp [settingPath_inj, Ne.symm h, h, assigned?, NameTable.last?]

theorem load_prefixVariable (v : String) :
    load none [(prefixVariable, v)] =
      { result := .ok { collectionPrefix := variableText v } } := by
  have hapart : VariablesApart [(prefixVariable, v)] := by
    show ∀ variableName ∈ [prefixVariable], ∀ path ∈ variablePath? variableName,
      path ∈ settingNames.map settingPath ∨ PassesBy (stepsOf path)
    decide +kernel
  rw [load_none_eq hapart, variablePart?_prefixVariable, variablePart?_prefixVariable]
  exact congrArg (Loaded.mk none) (ofParts_eq_ok_iff.2 ⟨asText?_ofVariable v, rfl⟩)

theorem ofToml_prefixDocument {literal v : String} (h : Toml.text? literal.toList = some (v, [])) :
    ofToml (Toml.prefixDocument literal) = .ok { collectionPrefix := v } := by
  have hsteps : stepsOf "search" = [.name "search"] := by decide +kernel
  have hname : Text.lowercase "collection_prefix" = "collection_prefix" :=
    lowercase_settingName (by simp [settingNames])
  have hlaid : overlayPaths [("search", .table [("collection_prefix", .text v)])] (.table []) =
      .table [("search", .table [("collection_prefix", .text v)])] := by
    simp only [overlayPaths, List.foldl_cons, List.foldl_nil, overlayPath, hsteps, overlayAt,
      overlay, overlayAll, lowercase_search, hname]
    rfl
  simp only [ofToml, Toml.read?_prefixDocument h, hlaid]
  rfl

theorem load_prefixDocument {literal v : String} (h : Toml.text? literal.toList = some (v, [])) :
    load (some (Toml.prefixDocument literal)) [] =
      { result := .ok { collectionPrefix := v } } := by
  rw [load_eq_ofToml (Toml.read?_prefixDocument h) (by simp [NameTable.names]),
    ofToml_prefixDocument h]

/-- A variable alone gives its text as the prefix, but for switches and numbers that are written
anew; every text comes through as it is in a document. -/
theorem prefix_of_variable (v : String) :
    load none [(prefixVariable, v)] = { result := .ok { collectionPrefix := variableText v } } ∧
    (∀ b, Text.lowercase v = boolText b → variableText v = boolText b) ∧
    (NoSwitch v →
      (∀ n, Decimal.readInteger? v.toList = some n → isInt64 n = true →
        variableText v = toString n) ∧
      (NoInteger v → ∀ x, Double.ofText? v = some x → variableText v = x.text) ∧
      (Double.ofText? v = none → variableText v = v)) ∧
    (variableText v = v ↔
      (∃ b, v = boolText b) ∨ (∃ n, isInt64 n = true ∧ v = toString n) ∨
      (NoSwitch v ∧ NoInteger v ∧ ∀ x, Double.ofText? v = some x → v = x.text)) ∧
    ((∃ c ∈ v.toList, isNumeralChar c = false) → variableText v = v) ∧
    Toml.text? (Toml.written v).toList = some (v, []) ∧
    ∀ literal, Toml.text? literal.toList = some (v, []) →
      ofToml (Toml.prefixDocument literal) = .ok { collectionPrefix := v } ∧
      load (some (Toml.prefixDocument literal)) [] =
        { result := .ok { collectionPrefix := v } } ∧
      ∀ name, collectionName { collectionPrefix := variableText v } name =
        collectionName { collectionPrefix := v } name ↔ variableText v = v := by
  refine ⟨load_prefixVariable v, fun b => variableText_switch,
    fun hword => ⟨fun n => variableText_int hword, fun hwide x => variableText_float hword hwide,
      variableText_text hword⟩,
    variableText_eq_iff v, fun ⟨c, hc, h⟩ => variableText_of_mem hc h, Toml.text?_written v,
    fun literal hliteral => ⟨ofToml_prefixDocument hliteral, load_prefixDocument hliteral,
      fun name => ?_⟩⟩
  simp [collectionName]

/-- Zeros in front of a number are lost, so another collection is searched. -/
theorem prefix_digits_changed :
    load none [(prefixVariable, "007")] = { result := .ok { collectionPrefix := "7" } } ∧
    ofToml (Toml.prefixDocument (Toml.written "007")) = .ok { collectionPrefix := "007" } ∧
    ¬ ∀ v name, ∃ c, (load none [(prefixVariable, v)]).result = .ok c ∧
      c.collectionName name = v ++ name := by
  have hseven : load none [(prefixVariable, "007")] =
      { result := .ok { collectionPrefix := "7" } } := by
    have htext : variableText "007" = "7" := by decide +kernel
    rw [load_prefixVariable, htext]
  refine ⟨hseven, ofToml_prefixDocument (Toml.text?_written "007"), fun hliteral => ?_⟩
  obtain ⟨c, hload, hname⟩ := hliteral "007" "products"
  rw [hseven] at hload
  obtain rfl := Except.ok.inj hload
  exact absurd hname (by decide)

end SearchConfig
end SearchCriteria
