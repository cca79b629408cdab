import DebugOutline.Render.Scalar
import Mathlib.Data.List.Basic

/-! Quoted scalars read back. The reader takes the letters between two quotes and drops the
backslash in front of a quote or a backslash. It accepts exactly what quoting writes, and what it
leaves is what stands behind the closing quote, so that no text can end its scalar early or be taken
for a missing one. -/
namespace DebugOutline.Scalar

/-- Put `letters` in the place of every `c`. -/
def replaceAll (c : Char) (letters : List Char) (text : String) : String :=
  String.ofList (text.toList.flatMap fun letter => if letter = c then letters else [letter])

/-- The letters up to the first quote without a backslash in front, and what stands behind it. A
backslash in front of any other letter is not read. -/
def readLetters : List Char → Option (List Char × List Char)
  | [] => none
  | '"' :: behind => some ([], behind)
  | '\\' :: '\\' :: rest => (readLetters rest).map (.map ('\\' :: ·) id)
  | '\\' :: '"' :: rest => (readLetters rest).map (.map ('"' :: ·) id)
  | '\\' :: _ => none
  | c :: rest => (readLetters rest).map (.map (c :: ·) id)

/-- The text between the quotes at the start of `source`, and what stands behind them. -/
def read? (source : String) : Option (String × String) :=
  match source.toList with
  | '"' :: rest => (readLetters rest).map (.map String.ofList String.ofList)
  | _ => none

variable {letters behind rest : List Char} {c : Char} {source text after : String}

/-! ### Letter by letter -/

/-- The second replacement finds no quote in what the first one wrote. -/
theorem escapeChar_eq_replaced (c : Char) :
    escapeChar c = (if c = '\\' then ['\\', '\\'] else [c]).flatMap fun letter =>
      if letter = '"' then ['\\', '"'] else [letter] := by
  unfold escapeChar
  by_cases backslash : c = '\\'
  · subst backslash
    rfl
  · by_cases quote : c = '"' <;> simp [backslash, quote]

/-- Escaping doubles the backslashes first, and then puts one in front of every quote. -/
theorem escape_eq_replaceAll (text : String) :
    escape text = replaceAll '"' ['\\', '"'] (replaceAll '\\' ['\\', '\\'] text) := by
  simp only [escape, replaceAll, String.toList_ofList, List.flatMap_assoc,
    ← escapeChar_eq_replaced]

theorem readLetters_escapeChar (c : Char) (rest : List Char) :
    readLetters (escapeChar c ++ rest) = (readLetters rest).map (.map (c :: ·) id) := by
  unfold escapeChar
  by_cases special : c = '\\' ∨ c = '"'
  · rw [if_pos special]
    rcases special with rfl | rfl <;> rfl
  · rw [if_neg special, List.singleton_append, readLetters] <;> simp_all

theorem exists_of_map_cons {read : Option (List Char × List Char)}
    (more : read.map (.map (c :: ·) id) = some (letters, behind)) :
    ∃ inner, read = some (inner, behind) ∧ letters = c :: inner := by
  obtain ⟨⟨inner, left⟩, known, same⟩ := Option.map_eq_some_iff.mp more
  cases same
  exact ⟨inner, known, rfl⟩

/-! ### Whole texts -/

theorem readLetters_escaped (letters behind : List Char) :
    readLetters (letters.flatMap escapeChar ++ '"' :: behind) = some (letters, behind) := by
  induction letters with
  | nil => rfl
  | cons c letters ih =>
    rw [List.flatMap_cons, List.append_assoc, readLetters_escapeChar, ih]
    rfl

/-- Whatever can be read was escaped. -/
theorem eq_escaped_of_readLetters (read : readLetters rest = some (letters, behind)) :
    rest = letters.flatMap escapeChar ++ '"' :: behind := by
  fun_induction readLetters rest generalizing letters with
  | case1 => cases read
  | case2 => cases read; rfl
  | case3 rest ih | case4 rest ih =>
    obtain ⟨inner, known, rfl⟩ := exists_of_map_cons read
    rw [ih known]
    rfl
  | case5 => cases read
  | case6 c rest notQuote _ _ notBackslash ih =>
    obtain ⟨inner, known, rfl⟩ := exists_of_map_cons read
    rw [ih known]
    simp_all [escapeChar]

theorem toList_quote (text : String) :
    (quote text).toList = '"' :: (text.toList.flatMap escapeChar ++ ['"']) := by
  simp [quote, escape]

theorem read?_quote_append (text after : String) :
    read? (quote text ++ after) = some (text, after) := by
  simp [read?, toList_quote, readLetters_escaped]

theorem read?_eq_some_iff : read? source = some (text, after) ↔ source = quote text ++ after := by
  constructor
  · intro read
    unfold read? at read
    split at read
    · rename_i rest opened
      obtain ⟨⟨letters, behind⟩, known, same⟩ := Option.map_eq_some_iff.mp read
      cases same
      rw [← String.toList_inj, opened, eq_escaped_of_readLetters known]
      simp [toList_quote]
    · cases read
  · rintro rfl
    exact read?_quote_append text after

/-- A text that is there starts with a quote, a missing one does not. -/
theorem read?_orNull_append (text after : String) :
    read? (orNull text ++ after) = if text = "" then none else some (text, after) := by
  unfold orNull
  split
  · simp [read?]
  · exact read?_quote_append text after

theorem orNull_inj {other : String} : orNull text = orNull other ↔ text = other := by
  refine ⟨fun same => ?_, congrArg orNull⟩
  have read := read?_orNull_append text ""
  rw [same, read?_orNull_append] at read
  by_cases none : text = "" <;> by_cases missing : other = "" <;> simp_all

/-! ### The theorem -/

/-- Escaping replaces backslashes and then quotes, and a quoted text is read back whole whatever
follows it; nothing else is read as that text. Texts that are written alike are the same, and only
the empty text is written as a missing one, which is not read at all. -/
theorem quoted_scalars_read_back :
    (∀ text, escape text = replaceAll '"' ['\\', '"'] (replaceAll '\\' ['\\', '\\'] text)) ∧
    (∀ text after, read? ("\"" ++ escape text ++ "\"" ++ after) = some (text, after)) ∧
    (∀ source text after, read? source = some (text, after) ↔ source = quote text ++ after) ∧
    (∀ text after, read? (orNull text ++ after) = if text = "" then none else some (text, after)) ∧
    (∀ text other, orNull text = orNull other ↔ text = other) ∧
    ∀ text, orNull text = "null" ↔ text = "" :=
  ⟨escape_eq_replaceAll, read?_quote_append, fun _ _ _ => read?_eq_some_iff, read?_orNull_append,
    fun _ _ => orNull_inj, fun text => @orNull_inj text ""⟩

/-- With the quotes replaced first, a quote ends its own scalar. -/
example : read? ("\"" ++ replaceAll '\\' ['\\', '\\'] (replaceAll '"' ['\\', '"'] "a\"b") ++ "\"") =
    some ("a\\", "b\"") := by decide

end DebugOutline.Scalar
