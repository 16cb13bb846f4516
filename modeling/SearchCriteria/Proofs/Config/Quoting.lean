import SearchCriteria.Config.Load

/-! Text in a document. Every text can be written between double quotes and is read back as it was,
and a section with one such line gives the setting this text, however it is quoted. -/
namespace SearchCriteria.Toml

def escaped (c : Char) : List Char :=
  if c = '"' then ['\\', '"']
  else if c = '\\' then ['\\', '\\']
  else if isTextChar c then [c]
  else ['\\', 'u', '0', '0', Nat.digitChar (c.toNat / 16), Nat.digitChar (c.toNat % 16)]

def written (s : String) : String := String.ofList ('"' :: (s.toList.flatMap escaped ++ ['"']))

theorem hexDigit?_digitChar : ∀ n < 16, Text.hexDigit? (Nat.digitChar n) = some n := by decide

theorem toNat_lt_of_not_isTextChar {c : Char} (h : isTextChar c = false) : c.toNat < 128 := by
  rcases Nat.lt_or_ge c.toNat 128 with hlt | hge
  · exact hlt
  · have htext : isTextChar c = true := by
      simp only [isTextChar, Bool.or_eq_true, Bool.and_eq_true, decide_eq_true_eq]
      omega
    rw [h] at htext
    cases htext

theorem escape?_code {c : Char} (h : c.toNat < 128) (rest : List Char) :
    escape? ('u' :: '0' :: '0' :: Nat.digitChar (c.toNat / 16) :: Nat.digitChar (c.toNat % 16) ::
      rest) = some (c, rest) := by
  have hhigh := hexDigit?_digitChar (c.toNat / 16) (by omega)
  have hlow := hexDigit?_digitChar (c.toNat % 16) (by omega)
  have hzero : Text.hexDigit? '0' = some 0 := by decide
  have hrun : Text.hexRun? 4 ('0' :: '0' :: Nat.digitChar (c.toNat / 16) ::
      Nat.digitChar (c.toNat % 16) :: rest) = some (c.toNat, rest) := by
    simp [Text.hexRun?, hhigh, hlow, hzero]
    omega
  have hscalar : Text.scalar? c.toNat = some c := by
    have hlimit : c.toNat < 0xD800 := by omega
    simp [Text.scalar?, hlimit]
  simp [escape?, hrun, hscalar]

theorem basicText?_escapedChar (c : Char) (fuel : Nat) (rest : List Char) :
    basicText? (fuel + 1) (escaped c ++ rest) =
      (basicText? fuel rest).map fun (text, rest) => (c :: text, rest) := by
  by_cases hquote : c = '"'
  · subst hquote
    cases hrest : basicText? fuel rest <;> simp [escaped, basicText?, escape?, hrest]
  by_cases hslash : c = '\\'
  · subst hslash
    cases hrest : basicText? fuel rest <;> simp [escaped, basicText?, escape?, hrest]
  by_cases htext : isTextChar c = true
  · simp [escaped, hquote, hslash, htext, basicText?]
  · have hcode : c.toNat < 128 := toNat_lt_of_not_isTextChar (by simpa using htext)
    cases hrest : basicText? fuel rest <;>
      simp [escaped, hquote, hslash, htext, basicText?, escape?_code hcode, hrest]

/-- The induction is on the text; every character takes one unit of fuel. -/
theorem basicText?_escaped (cs rest : List Char) {fuel : Nat} (h : cs.length < fuel) :
    basicText? fuel (cs.flatMap escaped ++ '"' :: rest) = some (cs, rest) := by
  induction cs generalizing fuel with
  | nil =>
    obtain ⟨fuel, rfl⟩ := Nat.exists_eq_succ_of_ne_zero (Nat.ne_of_gt h)
    simp [basicText?]
  | cons c cs ih =>
    obtain ⟨fuel, rfl⟩ := Nat.exists_eq_succ_of_ne_zero (Nat.ne_of_gt (Nat.zero_lt_of_lt h))
    have hlater : cs.length < fuel := by simpa using h
    rw [List.flatMap_cons, List.append_assoc, basicText?_escapedChar, ih hlater]
    rfl

theorem exists_escaped (c : Char) : ∃ d ds, escaped c = d :: ds ∧ d ≠ '"' := by
  unfold escaped
  split
  · exact ⟨'\\', _, rfl, by decide⟩
  split
  · exact ⟨'\\', _, rfl, by decide⟩
  split
  · next hquote _ _ => exact ⟨c, _, rfl, hquote⟩
  · exact ⟨'\\', _, rfl, by decide⟩

theorem length_le_escaped (cs : List Char) : cs.length ≤ (cs.flatMap escaped).length := by
  induction cs with
  | nil => exact Nat.le_refl _
  | cons c cs ih =>
    obtain ⟨d, ds, hd, -⟩ := exists_escaped c
    simp only [List.flatMap_cons, hd, List.length_append, List.length_cons]
    omega

theorem text?_eq_quoted? {d : Char} (h : d ≠ '"') (ds : List Char) :
    text? ('"' :: d :: ds) = quoted? ('"' :: d :: ds) := by
  simp [text?, h]

/-- Every text can be written so that it is read back as it is. -/
theorem text?_written (s : String) : text? (written s).toList = some (s, []) := by
  have hquoted : quoted? (written s).toList = some (s, []) := by
    have hlength := length_le_escaped s.toList
    have hfuel : s.toList.length < (s.toList.flatMap escaped ++ ['"']).length + 1 := by
      simp only [List.length_append, List.length_cons, List.length_nil]
      omega
    rw [written, String.toList_ofList, quoted?, basicText?_escaped s.toList [] hfuel]
    simp
  -- Three quotes would open a text of several lines, so the character after the first one matters.
  cases hs : s.toList with
  | nil =>
    have hempty : s = "" := by simpa using hs
    subst hempty
    decide
  | cons c cs =>
    obtain ⟨d, ds, hd, hquote⟩ := exists_escaped c
    have hwritten : (written s).toList = '"' :: d :: (ds ++ (cs.flatMap escaped ++ ['"'])) := by
      simp [written, hs, hd]
    rw [hwritten] at hquoted ⊢
    rw [text?_eq_quoted? hquote, hquoted]

theorem exists_quote_of_text? {cs rest : List Char} {s : String} (h : text? cs = some (s, rest)) :
    ∃ tail, cs = '"' :: tail ∨ cs = '\'' :: tail := by
  cases cs with
  | nil => simp [text?, quoted?] at h
  | cons c tail =>
    by_cases hdouble : c = '"'
    · exact ⟨tail, .inl (by rw [hdouble])⟩
    by_cases hsingle : c = '\''
    · exact ⟨tail, .inr (by rw [hsingle])⟩
    · simp [text?, quoted?, hdouble, hsingle] at h

theorem scalar?_of_text? {cs rest : List Char} {s : String} (h : text? cs = some (s, rest)) :
    scalar? cs = some (.text s, rest) := by
  obtain ⟨tail, rfl | rfl⟩ := exists_quote_of_text? h <;> simp [scalar?, h]

def prefixDocument (literal : String) : String :=
  "[search]\n" ++ ("collection_prefix = " ++ literal)

theorem line?_header (rest : List Char) :
    line? ("[search]\n".toList ++ rest) = some (.table ["search"], rest) := by
  rfl

theorem line?_pair {cs : List Char} {v : String} (h : text? cs = some (v, [])) :
    line? ("collection_prefix = ".toList ++ cs) =
      some (.pair ["collection_prefix"] (.text v), []) := by
  have hkey : key? ("collection_prefix = ".toList ++ cs) =
      some (["collection_prefix"], "= ".toList ++ cs) := rfl
  have hspace : skipSpace (' ' :: cs) = cs := by
    obtain ⟨tail, rfl | rfl⟩ := exists_quote_of_text? h <;> rfl
  have hvalue : value? (nestingLimit - 1) cs = some (.text v, []) := by
    have hscalar := scalar?_of_text? h
    obtain ⟨tail, rfl | rfl⟩ := exists_quote_of_text? h <;> exact hscalar
  have hpair : pair? (value? (nestingLimit - 1)) ("collection_prefix = ".toList ++ cs) =
      some ((["collection_prefix"], .text v), []) := by
    rw [pair?, hkey]
    change (value? (nestingLimit - 1) (skipSpace (' ' :: cs))).bind _ = _
    rw [hspace, hvalue]
    rfl
  change (pair? (value? (nestingLimit - 1)) ("collection_prefix = ".toList ++ cs)).bind _ = _
  rw [hpair]
  rfl

theorem lines?_nil (fuel : Nat) : lines? fuel [] = some [] := by
  cases fuel <;> rfl

theorem lines?_succ {cs rest : List Char} {line : Line} (hspace : skipSpace cs = cs)
    (hend : lineEnd? cs = none) (hline : line? cs = some (line, rest)) (fuel : Nat) :
    lines? (fuel + 1) cs = (lines? fuel rest).map (line :: ·) := by
  cases cs with
  | nil => cases hend
  | cons c cs =>
    simp only [lines?, hspace, hend, hline, Option.map_eq_bind]
    rfl

theorem lines?_prefixDocument {cs : List Char} {v : String} (h : text? cs = some (v, []))
    (fuel : Nat) :
    lines? (fuel + 2) ("[search]\n".toList ++ ("collection_prefix = ".toList ++ cs)) =
      some [.table ["search"], .pair ["collection_prefix"] (.text v)] := by
  have hpair : lines? (fuel + 1) ("collection_prefix = ".toList ++ cs) =
      some [.pair ["collection_prefix"] (.text v)] := by
    rw [lines?_succ rfl rfl (line?_pair h), lines?_nil]
    rfl
  rw [lines?_succ rfl rfl (line?_header _), hpair]
  rfl

/-- However a text is quoted, the document has one setting, and it is this text. -/
theorem read?_prefixDocument {literal v : String} (h : text? literal.toList = some (v, [])) :
    read? (prefixDocument literal) =
      some [("search", .table [("collection_prefix", .text v)])] := by
  have htext : (prefixDocument literal).toList =
      "[search]\n".toList ++ ("collection_prefix = ".toList ++ literal.toList) := by
    simp only [prefixDocument, String.toList_append]
  obtain ⟨tail, htail⟩ : ∃ tail, '[' :: tail =
      "[search]\n".toList ++ ("collection_prefix = ".toList ++ literal.toList) := ⟨_, rfl⟩
  have hlines : lines? (('[' :: tail).length + 1) ('[' :: tail) =
      some [.table ["search"], .pair ["collection_prefix"] (.text v)] := by
    rw [htail]
    exact lines?_prefixDocument h _
  rw [read?, htext, ← htail]
  change (lines? (('[' :: tail).length + 1) ('[' :: tail)).bind _ = _
  rw [hlines]
  rfl

end SearchCriteria.Toml
