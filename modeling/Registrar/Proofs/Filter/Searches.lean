import Registrar.Filter
import Registrar.Proofs.Text.Lower

/-!
Searches without regard to case. A search compares the small forms of the stored and the sought text, and
a capital sigma has another small form at the end of a word. Main statement: where the sought text stands
in the stored one as it is spelled, the search finds it at the beginning or the end just if the sigmas of
the sought text end words there as they do in that text alone; and inside, each time this is so, and
always just if it is so in every text.
-/

namespace Registrar

open Json

namespace Text

theorem occursIn_iff {sub s : List Char} : occursIn sub s ↔ sub <:+: s := by
  induction s with
  | nil => simp [occursIn]
  | cons c r ih => simp [occursIn, ih, List.infix_cons_iff]

end Text

open Text

namespace Predicate

/-- Each predicate with this test and the sought text passes every row in which one of its properties has
the stored text. -/
def Finds (test : Test) (stored sought : String) : Prop :=
  ∀ (p : Predicate) (row : Value) (property : String) (v : Value), p.test = test →
    p.values.head? = some (.text sought) → property ∈ p.properties →
    Row.extract row property = some v → Row.text v = stored → p.holds row

theorem finds_iff (test : Test) (relation : List Char → List Char → Bool)
    (search : ∀ (p : Predicate) actual, p.test = test →
      p.holdsFor actual = textTest relation actual p.values.head?) (stored sought : String) :
    Finds test stored sought ↔ relation (lowerFrom [] stored.toList) (lowerFrom [] sought.toList) := by
  constructor
  · intro finds
    have present : Row.extract (.object [("name", .text stored)]) "name" = some (.text stored) := rfl
    have passes := finds ⟨test, ["name"], [.text sought]⟩ _ "name" _ rfl rfl (by simp) present rfl
    simpa [holds, present, search, textTest, Row.text] using passes
  · rintro related p row property v rfl sought' among present rfl
    refine List.any_eq_true.2 ⟨property, among, ?_⟩
    simpa [search, sought', present, textTest, Row.text] using related

theorem finds_contains_iff (stored sought : String) : Finds .contains stored sought ↔
    lowerFrom [] sought.toList <:+: lowerFrom [] stored.toList := by
  have search := finds_iff .contains (fun a b => occursIn b a) fun p actual test => by simp [holdsFor, test]
  rw [search, occursIn_iff]

theorem finds_beginsWith_iff (stored sought : String) : Finds .beginsWith stored sought ↔
    lowerFrom [] sought.toList <+: lowerFrom [] stored.toList := by
  have search := finds_iff .beginsWith (fun a b => b.isPrefixOf a) fun p actual test => by simp [holdsFor, test]
  rw [search, List.isPrefixOf_iff_prefix]

theorem finds_endsWith_iff (stored sought : String) : Finds .endsWith stored sought ↔
    lowerFrom [] sought.toList <:+ lowerFrom [] stored.toList := by
  have search := finds_iff .endsWith (fun a b => b.isSuffixOf a) fun p actual test => by simp [holdsFor, test]
  rw [search, List.isSuffixOf_iff_suffix]

/-- A text is found where it stands as it is spelled: at the beginning or the end of a text just if its
sigmas are settled there, and inside wherever they are; in all texts that contain it, just if they are
settled in all texts. -/
theorem finds_spelled_iff (sought : String) :
    (∀ back, Finds .beginsWith (sought ++ back) sought ↔ Settled [] sought.toList back.toList) ∧
    (∀ front, Finds .endsWith (front ++ sought) sought ↔ Settled front.toList sought.toList []) ∧
    (∀ front back, Settled front.toList sought.toList back.toList →
      Finds .contains (front ++ sought ++ back) sought) ∧
    ((∀ front back, Finds .contains (front ++ sought ++ back) sought) ↔
      ∀ front back, Settled front sought.toList back) := by
  refine ⟨fun back => ?_, fun front => ?_, fun front back settled => ?_, fun finds => ?_,
    fun settled front back => ?_⟩
  · rw [finds_beginsWith_iff, String.toList_append, lower_prefix_iff]
  · rw [finds_endsWith_iff, String.toList_append, lower_suffix_iff]
  · rw [finds_contains_iff, String.toList_append, String.toList_append]
    exact lower_infix_of_settled settled
  · refine settled_of_lower_infix fun front back => ?_
    simpa [finds_contains_iff] using finds (String.ofList front) (String.ofList back)
  · rw [finds_contains_iff, String.toList_append, String.toList_append]
    exact lower_infix_of_settled (settled _ _)

/-- A sigma that ends the sought text and no word of the stored one, and one that is sought alone. -/
theorem sigma_not_found :
    ¬Finds .contains ("" ++ "ΑΣ" ++ "Α") "ΑΣ" ∧ ¬Finds .beginsWith ("ΑΣ" ++ "Α") "ΑΣ" ∧
      ¬Finds .endsWith ("Α" ++ "Σ") "Σ" := by
  rw [finds_contains_iff, finds_beginsWith_iff, finds_endsWith_iff]
  decide +kernel

end Predicate
end Registrar
