import Registrar.Proofs.Desk.Entry
import Registrar.Proofs.Desk.Journal

/-!
Requests about one record. Main statement: such a request is refused and leaves the store alone, or it
enters a new record that the policy lets be created, or it revises the record that it names and that the
policy lets be updated.
-/

namespace Registrar

namespace Store

variable {I E : Type} [Identifier I] {k : Kind I E} {s t : Store} {supply : Supply} {author : Author}
variable {e saved : E}

theorem row?_saved (law : k.Lawful) (saves : s.save k supply author e = (t, .ok saved)) :
    t.row? k.entityType (k.key saved) = some (k.row (k.key saved) saved) ∧
    ∀ key, key ≠ k.key saved → t.row? k.entityType key = s.row? k.entityType key := by
  have answer : (s.save k supply author e).2 = .ok saved := congrArg Prod.snd saves
  have result : (s.save k supply author e).1 = t := congrArg Prod.fst saves
  rw [← result]
  refine ⟨?_, fun key other => ?_⟩
  · rcases row?_save_cases law supply author e s k.entityType (k.key saved) with
      ⟨_, apart⟩ | ⟨x, done, _, _, _, _, there⟩
    · exact absurd ⟨rfl, rfl⟩ (apart saved answer)
    · cases answer.symm.trans done
      exact there
  · rcases row?_save_cases law supply author e s k.entityType key with
      ⟨same, _⟩ | ⟨x, done, _, own, _⟩
    · exact same
    · cases answer.symm.trans done
      exact absurd own.symm other

theorem stable_saved {P : E → Prop} (stable : k.Stable P) (law : k.Lawful) (he : P e)
    (saves : s.save k supply author e = (t, .ok saved)) : P saved := by
  have answer : (s.save k supply author e).2 = .ok saved := congrArg Prod.snd saves
  have named := named_of_stable stable supply he s
  rcases row?_save_cases law supply author e s k.entityType (k.key saved) with
    ⟨_, apart⟩ | ⟨x, done, _, _, shape, _⟩
  · exact absurd ⟨rfl, rfl⟩ (apart saved answer)
  · cases answer.symm.trans done
    rcases shape with rfl | ⟨n, rfl⟩
    · exact named
    · exact stable.setVersion n named

theorem key_saved_named (law : k.Lawful) (saves : s.save k supply author e = (t, .ok saved)) :
    k.key saved = k.key (s.named k supply e) := by
  rw [Kind.key, Kind.idText?, id_saved law (congrArg Prod.snd saves)]
  rfl

theorem key_saved (law : k.Lawful) (saves : s.save k supply author e = (t, .ok saved)) :
    (k.isNew e → k.key saved = Identifier.text
      (Identifier.fresh (supply.textId (s.textIds + 1)) (s.saves + 1) : I)) ∧
    (k.isNew e = false → k.key saved = k.key e) := by
  rw [key_saved_named law saves]
  exact ⟨fun new => key_named_of_isNew law new, fun known => by rw [named_of_not_isNew k known]⟩

end Store

namespace Desk

variable {I E : Type} [Identifier I] [DecidableEq I] (d : Desk I E)

/-- The ways in which a request about one record goes, each with the store and the answer it leaves.
What is saved has been bound, let pass, prepared and checked, in this order. -/
inductive Served (supply : Supply) (caller : Caller) (params : Params) (s : Store) :
    Store → Except Error Outcome → Prop
  | refused {t : Store} (untouched : s.Untouched t) (fault : Error) :
      Served supply caller params s t (.error fault)
  | entered {e x saved : E} {t : Store} (unnamed : requestId (I := I) params = .ok none)
      (bound : d.kind.bind params d.kind.blank = .ok e)
      (allowed : d.policy.refuseCreate e caller = none)
      (prepared : d.policy.prepare e caller = .ok x) {rules : RuleSet}
      (checked : d.check rules true (d.kind.stamp caller.userId supply.now x) s = .ok ())
      {author : Author}
      (saves : s.save d.kind supply author (d.kind.stamp caller.userId supply.now x) =
        (t, .ok saved)) (message : String) :
      Served supply caller params s t (.ok (.success message (some (d.kind.encode saved))))
  | revised {id : I} {drawn e x saved : E} {t : Store}
      (named : requestId params = .ok (some id)) (found : s.find? d.kind id = .ok (some drawn))
      (bound : d.kind.bind params drawn = .ok e)
      (allowed : d.policy.refuseUpdate e caller = none)
      (prepared : d.policy.prepare e caller = .ok x) {rules : RuleSet}
      (checked : d.check rules false x s = .ok ()) {author : Author}
      (saves : s.save d.kind supply author x = (t, .ok saved)) (message : String) :
      Served supply caller params s t (.ok (.success message (some (d.kind.encode saved))))

variable {d} {supply : Supply} {caller : Caller} {params : Params} {r : Registry} {message : String}

theorem Filed.refused_or_saved {author : Author} {creating : Bool} {e : E} {s t : Store}
    {answer : Except Error E} (filed : d.Filed supply author creating e s t answer) :
    (∃ fault, answer = .error fault ∧ s.Untouched t) ∨
    ∃ rules saved, d.check rules creating e s = .ok () ∧
      s.save d.kind supply author e = (t, .ok saved) ∧ answer = .ok saved := by
  cases filed with
  | refused fault => exact .inl ⟨fault, rfl, rfl, rfl⟩
  | @saved rules checked =>
    cases result : (s.save d.kind supply author e).2 with
    | error fault =>
      obtain ⟨rows, revisions⟩ := Store.save_error d.kind result
      exact .inl ⟨fault, rfl, rows, revisions⟩
    | ok saved => exact .inr ⟨rules, saved, checked, Prod.ext rfl result, rfl⟩

theorem served_create {event : String} {e : E} (unnamed : requestId (I := I) params = .ok none)
    (bound : d.kind.bind params d.kind.blank = .ok e) :
    d.Served supply caller params r.store (d.create supply ⟨caller, event⟩ e r).1.store
      ((d.create supply ⟨caller, event⟩ e r).2.map fun saved =>
        .success message (some (d.kind.encode saved))) := by
  cases allowed : d.policy.refuseCreate e caller with
  | some refusal =>
    simp only [create, allowed]
    exact .refused ⟨rfl, rfl⟩ _
  | none =>
    cases prepared : d.policy.prepare e caller with
    | error fault =>
      simp only [create, allowed, prepared]
      exact .refused ⟨rfl, rfl⟩ _
    | ok x =>
      simp only [create, allowed, prepared]
      have filed := d.filed_commit supply ⟨caller, event⟩ true
        (d.kind.stamp caller.userId supply.now x) r
      rcases filed.refused_or_saved with
        ⟨fault, answer, untouched⟩ | ⟨rules, saved, checked, saves, answer⟩
      · rw [answer]
        exact .refused untouched fault
      · rw [answer]
        exact .entered unnamed bound allowed prepared checked saves message

theorem served_update {event : String} {id : I} {drawn e : E}
    (named : requestId params = .ok (some id)) (found : r.store.find? d.kind id = .ok (some drawn))
    (bound : d.kind.bind params drawn = .ok e) :
    d.Served supply caller params r.store (d.update supply ⟨caller, event⟩ e r).1.store
      ((d.update supply ⟨caller, event⟩ e r).2.map fun saved =>
        .success message (some (d.kind.encode saved))) := by
  cases allowed : d.policy.refuseUpdate e caller with
  | some refusal =>
    simp only [update, allowed]
    exact .refused ⟨rfl, rfl⟩ _
  | none =>
    cases prepared : d.policy.prepare e caller with
    | error fault =>
      simp only [update, allowed, prepared]
      exact .refused ⟨rfl, rfl⟩ _
    | ok x =>
      simp only [update, allowed, prepared]
      have filed := d.filed_commit supply ⟨caller, event⟩ false x r
      rcases filed.refused_or_saved with
        ⟨fault, answer, untouched⟩ | ⟨rules, saved, checked, saves, answer⟩
      · rw [answer]
        exact .refused untouched fault
      · rw [answer]
        exact .revised named found bound allowed prepared checked saves message

omit [DecidableEq I] in
theorem key_revised [LawfulIdentifier I] (law : d.kind.Lawful) (keeps : d.KeepsId) {s t : Store}
    (kept : s.WellKept) {id : I} {drawn e x saved : E} {author : Author}
    (found : s.find? d.kind id = .ok (some drawn)) (bound : d.kind.bind params drawn = .ok e)
    (prepared : d.policy.prepare e caller = .ok x)
    (saves : s.save d.kind supply author x = (t, .ok saved)) :
    d.kind.key saved = Identifier.text id := by
  obtain ⟨hid, known⟩ := kept.known_of_find? law found
  have stillKnown := (Kind.isNew_bind law bound).trans known
  have sameId : d.kind.id x = some id :=
    (keeps.prepare stillKnown prepared).trans ((Kind.id_bind law bound).trans hid)
  have xKnown : d.kind.isNew x = false := by
    rw [Kind.isNew, sameId, ← hid]
    exact known
  exact ((Store.key_saved law saves).2 xKnown).trans (Store.key_of_id sameId)

section Orders

variable [LawfulIdentifier I] (law : d.kind.Lawful) (kept : r.store.WellKept)
  (blank : d.kind.isNew d.kind.blank)

include law kept blank

theorem served_report (event : String) {change : E → Action E}
    (entering : ∀ e, d.kind.isNew e → (∃ fault, change e r = (r, .error fault)) ∨
      change e r = d.create supply ⟨caller, event⟩ e r)
    (revising : ∀ e, d.kind.isNew e = false → (∃ fault, change e r = (r, .error fault)) ∨
      change e r = d.update supply ⟨caller, event⟩ e r) :
    d.Served supply caller params r.store (d.report message params caller change r).1.store
      (d.report message params caller change r).2 := by
  rcases d.report_cases message params caller change r with ⟨fault, refused⟩ | ⟨e, worked, result⟩
  · rw [refused]
    exact .refused ⟨rfl, rfl⟩ fault
  · rw [result]
    obtain ⟨drawn, bound, ⟨unnamed, rfl⟩ | ⟨id, named, found⟩⟩ := d.of_working worked
    · rcases entering e ((Kind.isNew_bind law bound).trans blank) with ⟨fault, refused⟩ | same
      · rw [refused]
        exact .refused ⟨rfl, rfl⟩ fault
      · rw [same]
        exact served_create unnamed bound
    · have known := (Kind.isNew_bind law bound).trans (kept.known_of_find? law found).2
      rcases revising e known with ⟨fault, refused⟩ | same
      · rw [refused]
        exact .refused ⟨rfl, rfl⟩ fault
      · rw [same]
        exact served_update named found bound

theorem served_doCreate : d.Served supply caller params r.store
    (d.doCreate supply params caller r).1.store (d.doCreate supply params caller r).2 := by
  refine served_report law kept blank "do-create" (fun e new => .inr ?_)
    fun e known => .inl ⟨.alreadySaved, ?_⟩
  · rw [if_pos new]
  · rw [if_neg (Bool.eq_false_iff.1 known)]

theorem served_doUpdate : d.Served supply caller params r.store
    (d.doUpdate supply params caller r).1.store (d.doUpdate supply params caller r).2 := by
  refine served_report law kept blank "do-update" (fun e new => .inl ⟨.unnamed, ?_⟩)
    fun e known => .inr ?_
  · rw [if_pos new]
  · rw [if_neg (Bool.eq_false_iff.1 known)]

theorem served_doSave : d.Served supply caller params r.store
    (d.doSave supply params caller r).1.store (d.doSave supply params caller r).2 := by
  refine served_report law kept blank "do-save" (fun e new => .inr ?_)
    fun e known => .inr ?_
  · rw [Desk.save, if_pos new]
  · rw [Desk.save, if_neg (Bool.eq_false_iff.1 known)]

end Orders
end Desk
end Registrar
