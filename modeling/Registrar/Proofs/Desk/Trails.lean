import Mathlib.Data.List.Nodup
import Registrar.Desk.History
import Registrar.Proofs.Desk.Viewing
import Registrar.Proofs.Page.Slices
import Registrar.Proofs.Store.Contents
import Registrar.Proofs.Store.Trail
import Registrar.Seed

/-!
What a desk shows of the trail of a record, the latest revision first. A request asks for the whole trail,
for the revisions in which the value at a path is another one than before, or for those in which it is not.
Main statement: on a page with enough room the last two divide the first, and the value lasts from one
revision in which it is another one to the next.
-/

namespace Registrar

open Json Number

namespace Number.Double

theorem same_iff {x y : Double} : x.same y ↔ ∃ n, x.units? = some n ∧ y.units? = some n := by
  unfold same compare?
  cases hx : x.units? <;> cases hy : y.units? <;> simp [@eq_comm Int]

theorem same_trans {x y z : Double} (first : x.same y) (second : y.same z) : x.same z := by
  obtain ⟨n, hx, hy⟩ := same_iff.1 first
  obtain ⟨m, hy', hz⟩ := same_iff.1 second
  cases hy.symm.trans hy'
  exact same_iff.2 ⟨n, hx, hz⟩

end Number.Double

namespace Json.Value

mutual

theorem same_trans {a b c : Value} (first : a.same b) (second : b.same c) : a.same c := by
  cases a <;> cases b <;> simp only [same, Bool.false_eq_true] at first <;>
    cases c <;> simp only [same, Bool.false_eq_true] at second <;> unfold same
  case null.null.null => rfl
  case bool.bool.bool => simp_all
  case int.int.int => simp_all
  case float.float.float => exact Number.Double.same_trans first second
  case text.text.text => simp_all
  case list.list.list => exact sameItems_trans first second
  case object.object.object => exact sameEntries_trans first second
termination_by structural a

theorem sameItems_trans {a b c : List Value} (first : sameItems a b) (second : sameItems b c) :
    sameItems a c := by
  cases a <;> cases b <;> simp only [sameItems, Bool.false_eq_true, Bool.and_eq_true] at first <;>
    cases c <;> simp only [sameItems, Bool.false_eq_true, Bool.and_eq_true] at second ⊢
  exact ⟨same_trans first.1 second.1, sameItems_trans first.2 second.2⟩
termination_by structural a

theorem sameEntries_trans {a b c : List (String × Value)} (first : sameEntries a b)
    (second : sameEntries b c) : sameEntries a c := by
  match a, b, c with
  | [], [], [] => rfl
  | (k, x) :: r, (l, y) :: s, (m, z) :: t =>
    simp only [sameEntries, Bool.and_eq_true, beq_iff_eq] at first second ⊢
    exact ⟨⟨first.1.1.trans second.1.1, same_trans first.1.2 second.1.2⟩,
      sameEntries_trans first.2 second.2⟩
termination_by structural a

end

end Json.Value

namespace ChangeFilter

theorem sameOption_trans {a b c : Option Value} (first : sameOption a b) (second : sameOption b c) :
    sameOption a c := by
  cases a <;> cases b <;> simp only [sameOption, Bool.false_eq_true] at first <;>
    cases c <;> simp only [sameOption, Bool.false_eq_true] at second ⊢
  exact Value.same_trans first second

end ChangeFilter

def Revision.valueAt (path : String) (r : Revision) : Option Value := Row.extract r.content path

/-- The revision shows the value that the one before it shows. Before the first one there is no value. -/
def Revision.Keeps (path : String) (before : Option Revision) (r : Revision) : Prop :=
  ChangeFilter.sameOption (before.bind (Revision.valueAt path)) (r.valueAt path)

namespace ChangeFilter

theorem didChange_iff {path : String} {before : Option Revision} {r : Revision} :
    didChange path (before.map Revision.content) r.content ↔ ¬r.Keeps path before := by
  cases before <;> simp [didChange, Revision.Keeps, Revision.valueAt]

def latest (wish : ChangeFilter) : List Revision → List Revision
  | [] => []
  | r :: earlier =>
    if didChange wish.property (earlier.head?.map Revision.content) r.content == wish.changed then
      r :: latest wish earlier
    else latest wish earlier

variable {wish : ChangeFilter} {path : String} {trail : List Revision}

theorem select_concat (wish : ChangeFilter) (previous : Option Value) (trail : List Revision)
    (r : Revision) :
    wish.select previous (trail ++ [r]) = wish.select previous trail ++
      if didChange wish.property ((trail.getLast?.map Revision.content).or previous) r.content ==
        wish.changed then [r] else [] := by
  induction trail generalizing previous with
  | nil => simp [select]
  | cons first rest ih =>
    have before : (((first :: rest).getLast?).map Revision.content).or previous =
        (rest.getLast?.map Revision.content).or (some first.content) := by
      cases rest with
      | nil => rfl
      | cons second rest => simp [List.getLast?_cons]
    rw [before, List.cons_append, select, select, ih]
    split <;> simp

theorem reverse_select (wish : ChangeFilter) (trail : List Revision) :
    (wish.select none trail).reverse = wish.latest trail.reverse := by
  induction trail using List.reverseRecOn with
  | nil => rfl
  | append_singleton trail r ih =>
    rw [select_concat, List.reverse_append, ih, List.reverse_concat, latest, List.head?_reverse,
      Option.or_none]
    split <;> rfl

theorem latest_map (wish : ChangeFilter) {label : Revision → Revision}
    (shows : ∀ r, (label r).content = r.content) (trail : List Revision) :
    wish.latest (trail.map label) = (wish.latest trail).map label := by
  induction trail with
  | nil => rfl
  | cons r earlier ih =>
    have before : ((earlier.map label).head?).map Revision.content =
        earlier.head?.map Revision.content := by cases earlier <;> simp [shows]
    rw [List.map_cons, latest, latest, before, shows, ih]
    split <;> rfl

theorem latest_sublist : (wish.latest trail).Sublist trail := by
  induction trail with
  | nil => exact .slnil
  | cons r earlier ih =>
    unfold latest
    split
    · exact ih.cons_cons r
    · exact ih.cons r

theorem latest_perm (path : String) (trail : List Revision) :
    (latest ⟨path, true⟩ trail ++ latest ⟨path, false⟩ trail).Perm trail := by
  induction trail with
  | nil => exact .nil
  | cons r earlier ih =>
    unfold latest
    cases didChange path (earlier.head?.map Revision.content) r.content
    · exact List.perm_middle.trans (ih.cons r)
    · exact ih.cons r

theorem mem_latest_iff {later earlier : List Revision} {r : Revision}
    (distinct : (later ++ r :: earlier).Nodup) :
    r ∈ wish.latest (later ++ r :: earlier) ↔
      didChange wish.property (earlier.head?.map Revision.content) r.content = wish.changed := by
  induction later with
  | nil =>
    have fresh : r ∉ wish.latest earlier := fun there =>
      (List.nodup_cons.1 distinct).1 (latest_sublist.subset there)
    rw [List.nil_append, latest]
    split <;> simp_all
  | cons x later ih =>
    obtain ⟨apart, distinct⟩ := List.nodup_cons.1 distinct
    have other : r ≠ x := by
      rintro rfl
      exact apart (List.mem_append_right _ List.mem_cons_self)
    rw [← ih distinct, List.cons_append, latest]
    split <;> simp [other]

theorem sameOption_of_between (later between earlier : List Revision) {a b : Revision}
    (kept : ∀ front r back, later ++ b :: (between ++ a :: earlier) = front ++ r :: back →
      r ∈ b :: between → r.Keeps path back.head?) :
    sameOption (a.valueAt path) (b.valueAt path) := by
  induction between generalizing later b with
  | nil => exact kept later b (a :: earlier) rfl List.mem_cons_self
  | cons c between ih =>
    have last : b.Keeps path (some c) := kept later b _ rfl List.mem_cons_self
    have before := ih (later ++ [b]) (b := c) fun front r back split hr =>
      kept front r back (by simpa using split) (List.mem_cons_of_mem _ hr)
    exact sameOption_trans before last

end ChangeFilter

/-- The lists divide a trail, the latest revision first, into the revisions in which the value at a path is
another one than in the revision before and those in which it is not. From one revision of the first list to
the next, the value stays as it is. -/
structure Divides (path : String) (whole changed unchanged : List Revision) : Prop where
  changedInOrder : changed.Sublist whole
  unchangedInOrder : unchanged.Sublist whole
  apart : changed.Disjoint unchanged
  together : (changed ++ unchanged).Perm whole
  changes {later earlier : List Revision} {r : Revision} : whole = later ++ r :: earlier →
    (r ∈ changed ↔ ¬r.Keeps path earlier.head?)
  lasts {a b : Revision} : a ∈ whole → b ∈ whole → a.number < b.number →
    (∀ r ∈ changed, a.number < r.number → b.number < r.number) →
    ChangeFilter.sameOption (a.valueAt path) (b.valueAt path)

/-- Of two revisions of a trail the earlier one stands behind the other, and those in between are later than
the one and not later than the other. -/
theorem exists_between {whole : List Revision}
    (descending : whole.Pairwise fun a b => b.number < a.number) {a b : Revision} (ha : a ∈ whole)
    (hb : b ∈ whole) (less : a.number < b.number) :
    ∃ later between earlier, whole = later ++ b :: (between ++ a :: earlier) ∧
      ∀ r ∈ b :: between, a.number < r.number ∧ r.number ≤ b.number := by
  obtain ⟨later, rest, rfl⟩ := List.append_of_mem hb
  obtain ⟨_, below, above⟩ := List.pairwise_append.1 descending
  obtain ⟨first, tail⟩ := List.pairwise_cons.1 below
  have behind : a ∈ rest := by
    rcases List.mem_append.1 ha with front | back
    · have := above a front b List.mem_cons_self
      omega
    · rcases List.mem_cons.1 back with rfl | back
      · omega
      · exact back
  obtain ⟨between, earlier, rfl⟩ := List.append_of_mem behind
  refine ⟨later, between, earlier, rfl, List.forall_mem_cons.2 ⟨⟨less, Int.le_refl _⟩, fun r hr => ?_⟩⟩
  exact ⟨(List.pairwise_append.1 tail).2.2 r hr a List.mem_cons_self,
    Int.le_of_lt (first r (List.mem_append_left _ hr))⟩

theorem divides_latest (path : String) {whole : List Revision}
    (descending : whole.Pairwise fun a b => b.number < a.number) :
    Divides path whole (ChangeFilter.latest ⟨path, true⟩ whole)
      (ChangeFilter.latest ⟨path, false⟩ whole) := by
  have distinct : whole.Nodup := descending.imp fun {a b} less same => by
    rw [same] at less
    omega
  have together := ChangeFilter.latest_perm path whole
  have changes {later earlier : List Revision} {r : Revision} (split : whole = later ++ r :: earlier) :
      r ∈ ChangeFilter.latest ⟨path, true⟩ whole ↔ ¬r.Keeps path earlier.head? := by
    rw [← ChangeFilter.didChange_iff, split, ChangeFilter.mem_latest_iff (split ▸ distinct)]
  refine ⟨ChangeFilter.latest_sublist, ChangeFilter.latest_sublist,
    (List.nodup_append'.1 (together.nodup_iff.2 distinct)).2.2, together, changes, ?_⟩
  intro a b ha hb less still
  obtain ⟨later, between, earlier, split, within⟩ := exists_between descending ha hb less
  refine ChangeFilter.sameOption_of_between later between earlier fun front r back here hr =>
    Classical.byContradiction fun changed => ?_
  -- A change in between would be a revision of the first list that is not later than the second.
  obtain ⟨after, upTo⟩ := within r hr
  have beyond := still r ((changes (split.trans here)).2 changed) after
  omega

namespace Desk

variable {I E : Type} [Identifier I] {d : Desk I E} {params : Params} {caller : Caller} {s : Store}
variable {id : I}

/-- What the desk shows of a record's trail, the latest revision first. -/
def trail (d : Desk I E) (s : Store) (id : I) : List Revision :=
  ((s.revisionsOf d.kind.entityType (Identifier.text id)).map d.labelled).reverse

/-- Of a record with a row, the caller may read the trail just if the caller may access the record. -/
def MayRead (d : Desk I E) (caller : Caller) (s : Store) (id : I) : Prop :=
  ∀ row, s.row? d.kind.entityType (Identifier.text id) = some row → d.Opens caller row

/-- Each request for the record's trail with this wish is answered with the list, if its first page has room
for the whole trail; only with a size that makes no word with the length of the list, it is given up. -/
def Lists (d : Desk I E) (caller : Caller) (s : Store) (id : I) (changed property : Option String)
    (list : List Revision) : Prop :=
  ∀ params : Params, requestId params = .ok (some id) → params.getFilled? "changed" = changed →
    params.getFilled? "property" = property → (PageRequest.ofParams params d.limits).number = 1 →
    (d.trail s id).length ≤ (PageRequest.ofParams params d.limits).size →
    (list.length + (PageRequest.ofParams params d.limits).size ≤ maxWord64 →
      ∃ page, d.revisions params caller s = .ok page ∧ page.content = list) ∧
    (maxWord64 < list.length + (PageRequest.ofParams params d.limits).size →
      d.revisions params caller s = .error (.panic .overflow))

theorem checkTrail_eq_ok (readable : d.MayRead caller s id) : d.checkTrail id caller s = .ok () := by
  unfold checkTrail Store.find?
  cases there : s.row? d.kind.entityType (Identifier.text id) with
  | none => rfl
  | some row =>
    obtain ⟨e, decoded, permitted⟩ := readable row there
    simp only [Store.read_eq_ok_iff.2 decoded, Except.map, permitted]

theorem requiredId_of_requestId (named : requestId params = .ok (some id)) :
    requiredId params = .ok id := by
  rw [requiredId, named]

theorem revisions_of_wish {wish : Option ChangeFilter} (readable : d.MayRead caller s id)
    (named : requestId params = .ok (some id)) (wished : ChangeFilter.ofParams params = .ok wish) :
    d.revisions params caller s = Page.ofAll (wish.elim (d.trail s id) fun wish =>
      wish.latest (d.trail s id)) (.ofParams params d.limits) := by
  simp only [revisions, requiredId_of_requestId named, checkTrail_eq_ok readable, wished, bind,
    Except.bind]
  cases wish with
  | none => rfl
  | some wish =>
    have labels : ∀ r, (d.labelled r).content = r.content := fun _ => rfl
    rw [Option.elim_some, trail, ← List.map_reverse, ← List.map_reverse,
      ChangeFilter.reverse_select, wish.latest_map labels]

end Desk

theorem Page.ofAll_first {α : Type} {all : List α} {request : PageRequest} (first : request.number = 1)
    (room : all.length ≤ request.size) (word : all.length + request.size ≤ maxWord64) :
    ∃ page, Page.ofAll all request = .ok page ∧ page.content = all := by
  rcases Nat.eq_zero_or_pos request.size with none | filled
  · have empty : all = [] := List.eq_nil_of_length_eq_zero (by omega)
    exact ⟨_, by rw [Page.ofAll, pageCount?, if_pos none], by simp [empty]⟩
  · refine ⟨_, Page.ofAll_of_word all filled word, ?_⟩
    simp [PageRequest.offset, first, List.take_of_length_le room]

namespace Desk

variable {I E : Type} [Identifier I] {d : Desk I E} {params : Params} {caller : Caller} {s : Store}
variable {id : I}

theorem lists_of_wish {changed property : Option String} (wish : Option ChangeFilter)
    (readable : d.MayRead caller s id)
    (wished : ∀ params : Params, params.getFilled? "changed" = changed →
      params.getFilled? "property" = property → ChangeFilter.ofParams params = .ok wish) :
    d.Lists caller s id changed property
      (wish.elim (d.trail s id) fun wish => wish.latest (d.trail s id)) := by
  intro params named asked about first room
  have answer := revisions_of_wish readable named (wished params asked about)
  have within : (wish.elim (d.trail s id) fun wish => wish.latest (d.trail s id)).length ≤
      (d.trail s id).length := by
    cases wish with
    | none => exact Nat.le_refl _
    | some wish => exact ChangeFilter.latest_sublist.length_le
  rw [answer]
  exact ⟨Page.ofAll_first first (Nat.le_trans within room), fun beyond =>
    Page.ofAll_of_beyond _ beyond (by omega)⟩

theorem ofParams_of_changed (changed : Bool) {property : Option String}
    (asked : params.getFilled? "changed" = some (if changed then "true" else "false"))
    (about : params.getFilled? "property" = property) :
    ChangeFilter.ofParams params = .ok (property.map fun path => ⟨path, changed⟩) := by
  unfold ChangeFilter.ofParams
  rw [asked, about]
  cases changed <;> rfl

theorem pairwise_trail (numbered : s.Numbered) (id : I) :
    (d.trail s id).Pairwise fun a b => b.number < a.number := by
  rw [trail, List.pairwise_reverse, List.pairwise_map]
  exact numbered.pairwise.filter _

/-- Whatever was saved and deleted, a caller who may read a record's trail is shown, on a page with room for
it, the whole trail with the latest revision first; if the request names a path and a wish, it is shown one of
the two parts into which the changes of the value at the path divide the trail. -/
theorem trail_divided (d : Desk I E) (writes : List Store.Write) (id : I)
    (readable : d.MayRead caller (.run writes {}) id) :
    (d.trail (.run writes {}) id).Pairwise (fun a b => b.number < a.number) ∧
    (∀ property, d.Lists caller (.run writes {}) id none property (d.trail (.run writes {}) id)) ∧
    (∀ changed ∈ ["true", "false"],
      d.Lists caller (.run writes {}) id (some changed) none (d.trail (.run writes {}) id)) ∧
    ∀ path, ∃ changed unchanged : List Revision,
      d.Lists caller (.run writes {}) id (some "true") (some path) changed ∧
      d.Lists caller (.run writes {}) id (some "false") (some path) unchanged ∧
      Divides path (d.trail (.run writes {}) id) changed unchanged := by
  have numbered : (Store.run writes {}).Numbered := Store.run_keeps Store.numbered_change writes rfl
  have descending := pairwise_trail (d := d) numbered id
  refine ⟨descending, fun property => ?_, fun changed hchanged => ?_, fun path => ?_⟩
  · exact lists_of_wish none readable fun params asked _ => by rw [ChangeFilter.ofParams, asked]
  · refine lists_of_wish none readable fun params asked about => ?_
    rcases List.mem_pair.1 hchanged with rfl | rfl
    · exact ofParams_of_changed true asked about
    · exact ofParams_of_changed false asked about
  · exact ⟨_, _, lists_of_wish (some ⟨path, true⟩) readable fun params asked about =>
        ofParams_of_changed true asked about,
      lists_of_wish (some ⟨path, false⟩) readable fun params asked about =>
        ofParams_of_changed false asked about,
      divides_latest path descending⟩

/-- A department is saved three times, under a new name in the end, deleted, and added again. -/
def relocation : List Store.Write :=
  let save := Store.Write.save Department.kind_lawful ⟨⟨0, 0⟩, fun _ => ""⟩ Seed.author
  let works := Seed.department "D10" "Works" none
  let plant := { works with name := "Plant" }
  [save works, save works, save { plant with version := 1 },
    .delete Department.kind ⟨0, 0⟩ Seed.author plant, save plant]

def registry : Desk String Department := ⟨Department.kind, Department.policy, {}⟩

def wishing (property changed : String) : Params :=
  ⟨.read, [("id", "D10"), ("property", property), ("changed", changed)]⟩

def answered (property changed : String) : Option (List Int) :=
  (registry.revisions (wishing property changed) Caller.anonymous (.run relocation {})).toOption.map
    fun page => page.content.map Revision.number

theorem mayRead_relocation : registry.MayRead Caller.anonymous (.run relocation {}) "D10" := by
  intro row there
  cases there
  exact ⟨{ Seed.department "D10" "Plant" none with version := 0 }, by rfl, rfl⟩

theorem relocation_divided :
    registry.MayRead Caller.anonymous (.run relocation {}) "D10" ∧
    ∃ changed unchanged, Divides "name" (registry.trail (.run relocation {}) "D10") changed unchanged ∧
      changed.map Revision.number = [3, 1] ∧ unchanged.map Revision.number = [5, 4, 2] := by
  obtain ⟨_, _, _, parts⟩ := trail_divided registry relocation "D10" mayRead_relocation
  obtain ⟨changed, unchanged, wanted, others, divides⟩ := parts "name"
  have few : (registry.trail (.run relocation {}) "D10").length = 5 := by decide +kernel
  have size (wish : String) : (PageRequest.ofParams (wishing "name" wish) registry.limits).size = 20 := rfl
  obtain ⟨first, answer, rfl⟩ := (wanted (wishing "name" "true") (by decide +kernel) (by decide +kernel)
    (by decide +kernel) (by decide +kernel) (by decide +kernel)).1 (by
      have within := divides.changedInOrder.length_le
      rw [size]
      unfold maxWord64
      omega)
  obtain ⟨second, rest, rfl⟩ := (others (wishing "name" "false") (by decide +kernel) (by decide +kernel)
    (by decide +kernel) (by decide +kernel) (by decide +kernel)).1 (by
      have within := divides.unchangedInOrder.length_le
      rw [size]
      unfold maxWord64
      omega)
  have changes : answered "name" "true" = some [3, 1] := by decide +kernel
  have stays : answered "name" "false" = some [5, 4, 2] := by decide +kernel
  rw [answered, answer] at changes
  rw [answered, rest] at stays
  exact ⟨mayRead_relocation, _, _, divides, Option.some.inj changes, Option.some.inj stays⟩

/-- Blanks around a path are dropped, and a blank path is none: at the first path no revision shows a value,
but the answer shows the changes of the name; with the second one, both answers show the whole trail. -/
theorem blanks_around_paths :
    registry.MayRead Caller.anonymous (.run relocation {}) "D10" ∧
    (∀ r ∈ registry.trail (.run relocation {}) "D10", r.valueAt " name" = none) ∧
    answered " name" "true" = some [3, 1] ∧
    answered " " "true" = some [5, 4, 3, 2, 1] ∧ answered " " "false" = some [5, 4, 3, 2, 1] := by
  have bare : (registry.trail (.run relocation {}) "D10").all
      (fun r => (r.valueAt " name").isNone) := by decide +kernel
  refine ⟨mayRead_relocation, fun r hr => ?_, by decide +kernel, by decide +kernel,
    by decide +kernel⟩
  exact Option.isNone_iff_eq_none.1 (List.all_eq_true.1 bare r hr)

end Desk
end Registrar
