import BoundSql.Connection.ValueKind
import BoundSql.Proofs.Text.Spelling

/-! # Kinds and the spelling of type names

A type name is read by its words and without regard to case. The first word alone decides the kind,
but for the sign of an integer: there is none exactly if one of the words says so.
-/

namespace BoundSql.ValueKind

def NamesInteger (s : String) : Prop :=
  ∃ first ∈ (Text.words s).head?,
    ∃ word ∈ ["TINYINT", "SMALLINT", "MEDIUMINT", "INT", "INTEGER", "BIGINT"],
      Text.sameName first word

instance (s : String) : Decidable (NamesInteger s) :=
  inferInstanceAs (Decidable (∃ first ∈ (Text.words s).head?, _))

/-- A type name with `unsigned` in one of its words, in any case. -/
def SaysUnsigned (s : String) : Prop :=
  ∃ word ∈ Text.words s, Text.mentions (Text.upper word) "UNSIGNED"

section

variable {s t word : String} {unsigned : Bool}

theorem alphabetic_sign : Text.Alphabetic "UNSIGNED" :=
  ⟨by decide, List.all_eq_true.mp (by decide)⟩

theorem firstWord_upper (s : String) :
    Text.firstWord (Text.upper s) = ((Text.words s).map Text.upper).headD "" := by
  rw [Text.firstWord_eq, Text.words_upper]

theorem mentions_upper (s : String) : Text.mentions (Text.upper s) "UNSIGNED" =
    ((Text.words s).map Text.upper).any (Text.mentions · "UNSIGNED") := by
  rw [Text.mentions_eq_any_words alphabetic_sign, Text.words_upper]

theorem namesInteger_iff : NamesInteger s ↔ Text.firstWord (Text.upper s) ∈ integerWords := by
  have hcapitals : ∀ word ∈ integerWords, Text.upper word = word := by decide
  rw [firstWord_upper, NamesInteger]
  cases Text.words s with
  | nil =>
    have hempty : "" ∉ integerWords := by decide
    simpa using hempty
  | cons first rest =>
    simp only [List.head?_cons, Option.mem_some, exists_eq_left', List.map_cons, List.headD_cons,
      Text.sameName_iff_upper]
    constructor
    · rintro ⟨word, hword, hsame⟩
      rwa [hsame, hcapitals word hword]
    · intro hfirst
      exact ⟨_, hfirst, (hcapitals _ hfirst).symm⟩

theorem saysUnsigned_iff : SaysUnsigned s ↔ Text.mentions (Text.upper s) "UNSIGNED" := by
  rw [mentions_upper, SaysUnsigned, List.any_map, List.any_eq_true]
  rfl

theorem words_signed (s : String) :
    Text.words (s ++ " UNSIGNED") = Text.words s ++ ["UNSIGNED"] := by
  have hsign : Text.words "UNSIGNED" = ["UNSIGNED"] := by decide +kernel
  rw [← hsign, ← Text.words_append_gap Text.gap_space, String.append_assoc]
  rfl

/-- A sign makes no integer: behind a name without words it is the first word itself. -/
theorem namesInteger_signed : NamesInteger (s ++ " UNSIGNED") ↔ NamesInteger s := by
  rw [NamesInteger, NamesInteger, words_signed]
  cases Text.words s with
  | nil => decide
  | cons first rest => rfl

theorem saysUnsigned_signed (s : String) : SaysUnsigned (s ++ " UNSIGNED") := by
  rw [SaysUnsigned, words_signed]
  exact ⟨"UNSIGNED", by simp, by decide⟩

theorem ofWord_of_not_mem (h : word ∉ integerWords) :
    ofWord word unsigned = (words.lookup word).getD .text := by
  rw [ofWord, if_neg (mt List.contains_iff_mem.mp h)]

theorem ofWord_eq_unsigned_iff :
    ofWord word unsigned = .unsigned ↔ word ∈ integerWords ∧ unsigned := by
  by_cases h : word ∈ integerWords
  · rw [ofWord, if_pos (List.contains_iff_mem.mpr h)]
    cases unsigned <;> simp [h]
  · have hsigned : ∀ e ∈ words, e.2 ≠ .unsigned := by decide
    have hother : (words.lookup word).getD .text ≠ .unsigned := by
      cases hlookup : words.lookup word with
      | none => exact ValueKind.noConfusion
      | some kind =>
        obtain ⟨before, after, hwords, -⟩ := List.lookup_eq_some_iff.mp hlookup
        exact hsigned (word, kind) (by simp [hwords])
    rw [ofWord_of_not_mem h]
    simp [hother, h]

theorem ofServerType_eq (s : String) : ofServerType s =
    ofWord (Text.firstWord (Text.upper s)) (Text.mentions (Text.upper s) "UNSIGNED") :=
  rfl

theorem ofServerType_eq_unsigned_iff :
    ofServerType s = .unsigned ↔ NamesInteger s ∧ SaysUnsigned s := by
  rw [ofServerType_eq, ofWord_eq_unsigned_iff, namesInteger_iff, saysUnsigned_iff]

theorem ofServerType_of_not_namesInteger (h : ¬ NamesInteger s) :
    ofServerType s = (words.lookup (((Text.words s).map Text.upper).headD "")).getD .text := by
  rw [ofServerType_eq, ofWord_of_not_mem (mt namesInteger_iff.mpr h), firstWord_upper]

theorem ofServerType_respelled (h : Text.Respelled s t) : ofServerType t = ofServerType s := by
  rw [ofServerType_eq, ofServerType_eq, firstWord_upper, firstWord_upper, mentions_upper,
    mentions_upper, h.words_upper_eq]

theorem ofServerType_signed (s : String) : ofServerType (s ++ " UNSIGNED") =
    if NamesInteger s then .unsigned else ofServerType s := by
  split
  next h =>
    rw [ofServerType_eq_unsigned_iff]
    exact ⟨namesInteger_signed.mpr h, saysUnsigned_signed s⟩
  next h =>
    rw [ofServerType_of_not_namesInteger (mt namesInteger_signed.mp h),
      ofServerType_of_not_namesInteger h, words_signed]
    cases Text.words s with
    | nil => decide
    | cons first rest => rfl

end

/-- The kind of a type stays the same when its name is spelled in another way. `UNSIGNED` behind the
name takes the sign from the integers and does nothing to any other type: a type has no sign exactly
if its first word is that of an integer and one of its words says so. -/
theorem ofServerType_stable (s : String) :
    (∀ t, Text.Respelled s t → ofServerType t = ofServerType s) ∧
    (ofServerType (s ++ " UNSIGNED") = if NamesInteger s then .unsigned else ofServerType s) ∧
    (ofServerType s = .unsigned ↔ NamesInteger s ∧ SaysUnsigned s) :=
  ⟨fun _ => ofServerType_respelled, ofServerType_signed s, ofServerType_eq_unsigned_iff⟩

/-- Tabs, line breaks and a wide space around the words of an integer, in mixed case. -/
theorem ofServerType_stable_of_bigint :
    let s := "bigint unsigned"
    let t := "\n\tBigInt\u3000Unsigned "
    Text.Respelled s t ∧ ofServerType t = ofServerType s ∧ ofServerType s = .unsigned := by
  intro s t
  have h : Text.Respelled s t := by decide +kernel
  exact ⟨h, (ofServerType_stable s).1 t h, by decide +kernel⟩

example : ofServerType "year unsigned" = .signed ∧ ofServerType "INT(10) UNSIGNED" = .text := by
  decide +kernel

end BoundSql.ValueKind
