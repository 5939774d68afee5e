import Mathlib.Tactic.Lemma
import Mathlib.Data.List.Nodup
import Bindery.Proofs.Slots

/-!
# Members of one name

A generated subclass may define two members of one name only if their parameters differ, which the
overload index of the method stands for.  `members_distinct_iff` says for which subclasses this
holds.

Virtual methods are kept apart by the settled keys: an override is written under a key that is not
settled and settles it (`Placed`), so that no other follows, of the class or of a base.  Two things
are beyond the reach of the keys.  The slots of the main module are written without looking at the
keys, and they settle none, so that an inherited override of the same key is written too
(`Subclass.RepeatsSlot`).  The slots that signals are connected to have names that are put together,
and another member may have such a name by chance (`Subclass.SharesSignalSlot`).
-/

namespace Bindery

/-! ## Names of signal slots -/

namespace Unicode

lemma upper_ne_nil (c : Char) : upper c ≠ [] := by
  have hexpansions : ∀ p ∈ uppercaseExpansions, p.2 ≠ [] := by decide +kernel
  unfold upper
  split
  · simp
  · unfold mapped
    cases himage : uppercaseExpansions.lookup c.toNat with
    | none => simp
    | some image =>
      obtain ⟨before, after, hsplit, -⟩ := List.lookup_eq_some_iff.1 himage
      have himage : image ≠ [] := hexpansions (c.toNat, image) (by simp [hsplit])
      simpa using himage

end Unicode

lemma length_le_titleChars (atStart : Bool) (cs : List Char) :
    cs.length ≤ (titleChars atStart cs).length := by
  induction cs generalizing atStart with
  | nil => simp
  | cons c cs ih =>
    have hhead :
        1 ≤ (if atStart && Unicode.isAlphabetic c then Unicode.upper c else [c]).length := by
      split
      · exact List.length_pos_iff.2 (Unicode.upper_ne_nil c)
      · simp
    have htail := ih (!(Unicode.isAlphanumeric c || c = '_'))
    simp only [titleChars, List.length_append, List.length_cons]
    omega

/-- No method has the name of its own signal slot. -/
lemma View.slotName_ne_name (v : View) : v.slotName ≠ v.name := by
  intro h
  have hlength : v.slotName.toList.length = v.name.toList.length := by rw [h]
  have htitle : v.name.toList.length ≤ (titleChars true v.name.toList).length :=
    length_le_titleChars true v.name.toList
  have hlead : "Signal_".toList.length = 7 := rfl
  simp only [slotName, titleCase, String.toList_append, List.length_append, hlead,
    String.toList_ofList] at hlength
  omega

/-! ## Members -/

namespace Trampoline

/-- The name of the member and the overload index of its method. -/
def memberKey (t : Trampoline) : String × Option UInt32 :=
  (t.member, t.view.method.overload)

/-- The name of the member and the key of the method it is for. -/
def identity (t : Trampoline) : String × String × Option UInt32 :=
  (t.member, t.view.key)

lemma memberKey_eq_key {t : Trampoline} (h : t.member = t.view.name) :
    t.memberKey = t.view.key := by
  rw [memberKey, h]
  rfl

end Trampoline

namespace Subclass

/-- The trampolines that override methods or receive signals. -/
def overrides (s : Subclass) : List Trampoline :=
  writtenItems s.members

/-- The trampolines of the slot section. -/
def slots (s : Subclass) : List Trampoline :=
  s.sections.elim [] fun sections => writtenItems sections.slots

lemma trampolines_eq_append (s : Subclass) : s.trampolines = s.overrides ++ s.slots := rfl

/-- A slot stands beside an override of the same key. -/
def RepeatsSlot (s : Subclass) : Prop :=
  ∃ t ∈ s.overrides, ∃ u ∈ s.slots, t.view.key = u.view.key

/-- The slot that a signal is connected to has the name and overload index of a member for another
method. -/
def SharesSignalSlot (s : Subclass) : Prop :=
  ∃ t ∈ s.trampolines, ∃ u ∈ s.trampolines, t.member = t.view.slotName ∧
    t.view.key ≠ u.view.key ∧ t.memberKey = u.memberKey

end Subclass

namespace Context

variable {ctx : Context} {main : Bool} {c base : Class} {v : View} {m : Method} {member : String}
  {w w' : Walk Trampoline} {t : Trampoline}

/-! ## Where trampolines stand -/

/-- A trampoline after a walk: it receives a signal of the class, or it has the name of its method,
and then the key of the method is settled. -/
inductive Placed (c : Class) (w : Walk Trampoline) (t : Trampoline) : Prop
  | signal {m : Method} (hm : m ∈ c.methods) (hrole : m.role = .signal)
      (hview : t.view = View.of m) (hmember : t.member = t.view.slotName) : Placed c w t
  | named (hmember : t.member = t.view.name) (hsettled : w.isSettled t.view.key = true) :
      Placed c w t

lemma Placed.mono (hle : w.Le w') (h : Placed c w t) : Placed c w' t := by
  cases h with
  | signal hm hrole hview hmember => exact .signal hm hrole hview hmember
  | named hmember hsettled => exact .named hmember (hle.isSettled _ hsettled)

lemma writtenItems_addTrampoline (c : Class) (member : String) (v : View) (w : Walk Trampoline) :
    writtenItems (ctx.addTrampoline c member v w).outcomes =
      writtenItems w.outcomes ++ (ctx.trampoline c member v).toOption.toList := by
  rw [addTrampoline, writtenItems_append, trampolineOutcome]
  cases ctx.trampoline c member v <;> rfl

lemma mem_writtenItems_addTrampoline :
    t ∈ writtenItems (ctx.addTrampoline c member v w).outcomes ↔
      t ∈ writtenItems w.outcomes ∨ ctx.trampoline c member v = .ok t := by
  rw [writtenItems_addTrampoline, List.mem_append]
  cases ctx.trampoline c member v <;> simp [Except.toOption, eq_comm]

lemma OverrideStep.placed (hstep : ctx.OverrideStep main c w w')
    (h : ∀ t ∈ writtenItems w.outcomes, Placed c w t) :
    ∀ t ∈ writtenItems w'.outcomes, Placed c w' t := by
  have hle : w.Le w' := hstep.le
  intro t ht
  cases hstep with
  | pass => exact h t ht
  | skip v o =>
    rw [Walk.outcomes_skip, writtenItems_append] at ht
    exact (h t (by simpa using ht)).mono hle
  | settle hreason => exact (h t ht).mono hle
  | signal hm hrole hvoid hcheck =>
    rcases mem_writtenItems_addTrampoline.1 ht with ht | hok
    · exact (h t ht).mono hle
    · obtain ⟨-, -, -, hview, -, hmember, -⟩ := trampoline_eq_ok_iff.1 hok
      exact .signal hm hrole hview (by rw [hmember, hview])
  | @override v hv hfresh =>
    rcases mem_writtenItems_addTrampoline.1 ht with ht | hok
    · exact (h t ht).mono hle
    · obtain ⟨-, -, -, hview, -, hmember, -⟩ := trampoline_eq_ok_iff.1 hok
      have hsettled : (w.settle v.key).isSettled v.key = true :=
        (Walk.isSettled_settle ..).2 (.inl rfl)
      refine .named (by rw [hmember, hview]; rfl) ?_
      rw [hview]
      exact (le_addTrampoline c _ _ _).isSettled _ hsettled

/-! ## The methods of the class -/

/-- A method of the class adds one trampoline at most. -/
lemma keys_overrideOwn (ctx : Context) (main : Bool) (c : Class) (w : Walk Trampoline)
    (m : Method) :
    ((writtenItems (ctx.overrideOwn main c w m).outcomes).map (·.view.key)).Sublist
      ((writtenItems w.outcomes).map (·.view.key) ++ [(View.of m).key]) := by
  have hpass : ((writtenItems w.outcomes).map (·.view.key)).Sublist
      ((writtenItems w.outcomes).map (·.view.key) ++ [(View.of m).key]) :=
    List.sublist_append_left _ _
  have hadd : ∀ (member : String) (w' : Walk Trampoline), w'.outcomes = w.outcomes →
      ((writtenItems (ctx.addTrampoline c member (View.of m) w').outcomes).map
        (·.view.key)).Sublist
          ((writtenItems w.outcomes).map (·.view.key) ++ [(View.of m).key]) := by
    intro member w' houtcomes
    rw [writtenItems_addTrampoline, List.map_append, houtcomes]
    cases hok : ctx.trampoline c member (View.of m) with
    | error o => simp [Except.toOption]
    | ok t =>
      have hview : t.view = View.of m := (trampoline_eq_ok_iff.1 hok).2.2.2.1
      simp [Except.toOption, hview]
  unfold overrideOwn
  simp only
  split
  · exact hpass
  split
  · exact hpass
  split
  · simp
  split
  · exact hadd _ w rfl
  split
  · exact hpass
  split
  · exact hpass
  · exact hadd _ _ rfl

lemma keys_foldl_overrideOwn (ctx : Context) (main : Bool) (c : Class) (methods : List Method)
    (w : Walk Trampoline) :
    ((writtenItems (methods.foldl (ctx.overrideOwn main c) w).outcomes).map
      (·.view.key)).Sublist
        ((writtenItems w.outcomes).map (·.view.key) ++ methods.map fun m => (View.of m).key) := by
  induction methods generalizing w with
  | nil => simp
  | cons m methods ih =>
    refine (ih (ctx.overrideOwn main c w m)).trans ?_
    rw [List.map_cons, List.append_cons]
    exact (keys_overrideOwn ctx main c w m).append_right _

/-- No two trampolines of a walk have the same identity. -/
structure Distinct (c : Class) (w : Walk Trampoline) : Prop where
  nodup : ((writtenItems w.outcomes).map Trampoline.identity).Nodup
  placed : ∀ t ∈ writtenItems w.outcomes, Placed c w t

lemma distinct_overrideOwn (main : Bool) (hkeys : (c.methods.map fun m => (View.of m).key).Nodup) :
    Distinct c (c.methods.foldl (ctx.overrideOwn main c) Walk.start) where
  nodup := by
    have hsublist := keys_foldl_overrideOwn ctx main c c.methods Walk.start
    have hnodup : ((writtenItems (c.methods.foldl (ctx.overrideOwn main c) Walk.start).outcomes).map
        (·.view.key)).Nodup := hkeys.sublist (by simpa [Walk.start] using hsublist)
    refine List.Nodup.of_map Prod.snd ?_
    rw [List.map_map]
    exact hnodup
  placed := by
    refine List.foldlRecOn (motive := fun w : Walk Trampoline =>
      ∀ t ∈ writtenItems w.outcomes, Placed c w t) _ _ ?_ fun w hw m hm => ?_
    · simp [Walk.start]
    · exact (overrideStep_own hm w).placed hw

/-! ## The inherited methods -/

/-- An inherited method adds nothing, or the trampoline of an override whose key was not settled. -/
lemma outcomes_overrideInherited (ctx : Context) (c base : Class) (w : Walk Trampoline)
    (m : Method) :
    (ctx.overrideInherited c base w m).outcomes = w.outcomes ∨
      w.isSettled ((View.of m).retarget c.name).key = false ∧
        (ctx.overrideInherited c base w m).outcomes =
          (ctx.addTrampoline c m.name ((View.of m).retarget c.name) w).outcomes := by
  unfold overrideInherited
  simp only
  split
  · exact .inl rfl
  next hguard =>
  split
  · exact .inl rfl
  · simp only [Bool.or_eq_true, not_or, Bool.not_eq_true] at hguard
    exact .inr ⟨hguard.2, rfl⟩

lemma Distinct.overrideInherited (hbase : base ∈ ctx.supportedBases c) (hm : m ∈ base.methods)
    (h : Distinct c w) : Distinct c (ctx.overrideInherited c base w m) := by
  refine ⟨?_, (overrideStep_inherited false hbase hm w).placed h.placed⟩
  rcases outcomes_overrideInherited ctx c base w m with hsame | ⟨hfresh, hadded⟩
  · rw [hsame]
    exact h.nodup
  rw [hadded, writtenItems_addTrampoline, List.map_append]
  cases hok : ctx.trampoline c m.name ((View.of m).retarget c.name) with
  | error o => simpa [Except.toOption] using h.nodup
  | ok t =>
    obtain ⟨-, -, -, hview, -, hmember, -⟩ := trampoline_eq_ok_iff.1 hok
    refine List.nodup_append.2 ⟨h.nodup, by simp [Except.toOption], ?_⟩
    -- an older trampoline of the same identity would have its key settled
    rintro identity hold identity' hnew rfl
    obtain ⟨t', ht', rfl⟩ := List.mem_map.1 hold
    have hsame : t'.identity = t.identity := by simpa [Except.toOption] using hnew
    have hkey : t'.view.key = t.view.key := congrArg Prod.snd hsame
    have hname : t'.view.name = t.view.name := congrArg Prod.fst hkey
    have hmember' : t'.member = t'.view.name := by
      have heq : t'.member = t.member := congrArg Prod.fst hsame
      rw [heq, hname, hmember, hview]
      rfl
    cases h.placed t' ht' with
    | signal hm' hrole hview' hslot => exact t'.view.slotName_ne_name (hslot.symm.trans hmember')
    | named _ hsettled =>
      rw [hkey, hview, hfresh] at hsettled
      cases hsettled

/-- Overrides and signal slots are distinct where the methods of the class are. -/
theorem distinct_overridingWalk (main : Bool)
    (hkeys : (c.methods.map fun m => (View.of m).key).Nodup) :
    Distinct c (ctx.overridingWalk main c) := by
  refine List.foldlRecOn _ _ (distinct_overrideOwn main hkeys) fun w hw base hbase => ?_
  exact List.foldlRecOn _ _ hw fun w hw m hm => hw.overrideInherited hbase hm

/-! ## The slots -/

lemma slot_of_mem_slotMembers (ht : t ∈ writtenItems (ctx.slotMembers c)) :
    ∃ m ∈ c.methods, m.role = .slot ∧ t.view = (View.of m).nonVirtual ∧ t.member = m.name := by
  obtain ⟨m, hm, hout⟩ := List.mem_map.1 (mem_writtenItems.1 ht)
  obtain ⟨hm, hrole⟩ := List.mem_filter.1 hm
  refine ⟨m, hm, by simpa using hrole, ?_⟩
  cases hcheck : ctx.checkMethod c (View.of m).nonVirtual with
  | error o => simp [hcheck] at hout
  | ok u =>
    simp only [hcheck] at hout
    obtain ⟨-, -, -, hview, -, hmember, -⟩ :=
      trampoline_eq_ok_iff.1 (trampolineOutcome_eq_written_iff.1 hout)
    exact ⟨hview, hmember⟩

lemma keys_slotMembers (c : Class) :
    ((writtenItems (ctx.slotMembers c)).map (·.view.key)).Sublist
      (c.methods.map fun m => (View.of m).key) := by
  rw [slotMembers, writtenItems, List.filterMap_map]
  refine (sublist_keys_filterMap (fun m t ht => ?_) _).trans (List.filter_sublist.map _)
  simp only [Function.comp_apply] at ht
  cases hcheck : ctx.checkMethod c (View.of m).nonVirtual with
  | error o => simp [hcheck, Outcome.item?] at ht
  | ok u =>
    cases hok : ctx.trampoline c m.name (View.of m).nonVirtual with
    | error o => simp [hcheck, trampolineOutcome, hok, Outcome.item?] at ht
    | ok t' =>
      have hview : t'.view = (View.of m).nonVirtual := (trampoline_eq_ok_iff.1 hok).2.2.2.1
      simp only [hcheck, trampolineOutcome, hok, Outcome.item?, Option.some.injEq] at ht
      rw [← ht, hview]
      rfl

/-! ## The whole subclass -/

lemma subclass?_eq_some {s : Subclass} (h : ctx.subclass? main c = some s) :
    s.subject = c.name ∧ s.overrides = writtenItems (ctx.overridingMembers main c) ∧
      s.slots = if main then writtenItems (ctx.slotMembers c) else [] := by
  obtain ⟨base, -, rfl⟩ := Option.map_eq_some_iff.1 h
  refine ⟨rfl, rfl, ?_⟩
  cases main <;> rfl

lemma subclass?_of_mem_subclasses {module : String} {a : Artifacts} {s : Subclass}
    (ha : ctx.generate module = .ok a) (hc : c ∈ ctx.registry.classesIn module)
    (hs : s ∈ a.implementation.subclasses) (hsubject : s.subject = c.name) :
    ctx.subclass? (ctx.config.isMain module) c = some s := by
  obtain ⟨c', hc', -, hs⟩ := (mem_subclasses ha).1 hs
  have hname : c'.name = c.name := (subclass?_eq_some hs).1.symm.trans hsubject
  obtain rfl : c' = c := Registry.eq_of_name_eq hc' hc hname
  exact hs

lemma placed_of_mem_overrides {s : Subclass} (hs : ctx.subclass? main c = some s)
    (hkeys : (c.methods.map fun m => (View.of m).key).Nodup) (ht : t ∈ s.overrides) :
    Placed c (ctx.overridingWalk main c) t := by
  rw [(subclass?_eq_some hs).2.1] at ht
  exact (distinct_overridingWalk main hkeys).placed t ht

lemma slot_of_mem_slots {s : Subclass} (hs : ctx.subclass? main c = some s) (ht : t ∈ s.slots) :
    ∃ m ∈ c.methods, m.role = .slot ∧ t.view = (View.of m).nonVirtual ∧ t.member = m.name := by
  rw [(subclass?_eq_some hs).2.2] at ht
  split at ht
  · exact slot_of_mem_slotMembers ht
  · cases ht

/-- A trampoline that has not the name of its method is the slot of a signal. -/
lemma named_or_slotName {s : Subclass} (hs : ctx.subclass? main c = some s)
    (hkeys : (c.methods.map fun m => (View.of m).key).Nodup) (ht : t ∈ s.trampolines) :
    t.member = t.view.name ∨ t.member = t.view.slotName := by
  rcases List.mem_append.1 ht with ht | ht
  · cases placed_of_mem_overrides hs hkeys ht with
    | signal hm hrole hview hmember => exact .inr hmember
    | named hmember hsettled => exact .inl hmember
  · obtain ⟨m, -, -, hview, hmember⟩ := slot_of_mem_slots hs ht
    refine .inl ?_
    rw [hmember, hview]
    rfl

lemma memberKey_eq_of_key {s : Subclass} {u : Trampoline} (hs : ctx.subclass? main c = some s)
    (hkeys : (c.methods.map fun m => (View.of m).key).Nodup) (ht : t ∈ s.overrides)
    (hu : u ∈ s.slots) (hsame : t.view.key = u.view.key) : t.memberKey = u.memberKey := by
  obtain ⟨m, hm, hrole, hview, hmember⟩ := slot_of_mem_slots hs hu
  have hslot : u.member = u.view.name := by
    rw [hmember, hview]
    rfl
  cases placed_of_mem_overrides hs hkeys ht with
  | @signal m' hm' hrole' hview' hmember' =>
    -- a slot and a signal of the class have different keys
    have hkey : (View.of m').key = (View.of m).key := by rw [← hview', hsame, hview]; rfl
    have hmethods : m' = m := List.inj_on_of_nodup_map hkeys hm' hm hkey
    rw [hmethods, hrole] at hrole'
    cases hrole'
  | named hnamed hsettled =>
    rw [Trampoline.memberKey_eq_key hnamed, Trampoline.memberKey_eq_key hslot, hsame]

/-- Where no slot is repeated, all trampolines of a subclass are distinct. -/
lemma nodup_identities {s : Subclass} (hs : ctx.subclass? main c = some s)
    (hkeys : (c.methods.map fun m => (View.of m).key).Nodup) (hrepeats : ¬s.RepeatsSlot) :
    (s.trampolines.map Trampoline.identity).Nodup := by
  obtain ⟨-, hoverrides, hslots⟩ := subclass?_eq_some hs
  have hslotKeys : (s.slots.map (·.view.key)).Nodup := by
    rw [hslots]
    split
    · exact hkeys.sublist (keys_slotMembers c)
    · simp
  rw [Subclass.trampolines_eq_append, List.map_append]
  refine List.nodup_append.2 ⟨?_, ?_, ?_⟩
  · rw [hoverrides]
    exact (distinct_overridingWalk main hkeys).nodup
  · refine List.Nodup.of_map Prod.snd ?_
    rw [List.map_map]
    exact hslotKeys
  · rintro identity hold identity' hnew rfl
    obtain ⟨t, ht, rfl⟩ := List.mem_map.1 hold
    obtain ⟨u, hu, hsame⟩ := List.mem_map.1 hnew
    exact hrepeats ⟨t, ht, u, hu, congrArg Prod.snd hsame.symm⟩

/-- Whatever is generated: if the methods of a class have distinct names and overload indices, so
have the trampolines of its generated subclass, unless a slot of the class stands beside an override
of its key, or the slot of a signal has by chance the name of another member. -/
theorem members_distinct_iff {module : String} {a : Artifacts} {s : Subclass}
    (ha : ctx.generate module = .ok a) (hc : c ∈ ctx.registry.classesIn module)
    (hkeys : (c.methods.map fun m => (View.of m).key).Nodup)
    (hs : s ∈ a.implementation.subclasses) (hsubject : s.subject = c.name) :
    (s.trampolines.map Trampoline.memberKey).Nodup ↔ ¬s.RepeatsSlot ∧ ¬s.SharesSignalSlot := by
  have hs := subclass?_of_mem_subclasses ha hc hs hsubject
  constructor
  · intro hnodup
    constructor
    · rintro ⟨t, ht, u, hu, hsame⟩
      have hmember := memberKey_eq_of_key hs hkeys ht hu hsame
      rw [Subclass.trampolines_eq_append, List.map_append] at hnodup
      exact (List.nodup_append.1 hnodup).2.2 _ (List.mem_map_of_mem ht) _
        (List.mem_map_of_mem hu) hmember
    · rintro ⟨t, ht, u, hu, -, hkey, hmember⟩
      have hsame : t = u := List.inj_on_of_nodup_map hnodup ht hu hmember
      exact hkey (by rw [hsame])
  · rintro ⟨hrepeats, hshares⟩
    have hnodup := nodup_identities hs hkeys hrepeats
    refine List.Nodup.map_on (fun t ht u hu hmember => ?_) (List.Nodup.of_map _ hnodup)
    have hkey : t.view.key = u.view.key := by
      -- members for different methods have one name only if one of them is the slot of a signal
      by_contra hkey
      rcases named_or_slotName hs hkeys ht with hnamed | hslot
      · rcases named_or_slotName hs hkeys hu with hnamed' | hslot'
        · rw [Trampoline.memberKey_eq_key hnamed, Trampoline.memberKey_eq_key hnamed'] at hmember
          exact hkey hmember
        · exact hshares ⟨u, hu, t, ht, hslot', Ne.symm hkey, hmember.symm⟩
      · exact hshares ⟨t, ht, u, hu, hslot, hkey, hmember⟩
    have hidentity : t.identity = u.identity :=
      Prod.ext (congrArg Prod.fst hmember : t.member = u.member) hkey
    exact List.inj_on_of_nodup_map hnodup ht hu hidentity

/-- The class of the main module in the sample repeats no slot: no two of its members have one
name. -/
theorem members_distinct_sample :
    ∃ a s, Sample.context.generate "main" = .ok a ∧ s ∈ a.implementation.subclasses ∧
      s.subject = "Counter" ∧ s.trampolines.length = 3 ∧
      ¬s.RepeatsSlot ∧ ¬s.SharesSignalSlot := by
  have hdistinct : (Sample.context.generate "main").toOption.any (fun a =>
      a.implementation.subclasses.any fun s =>
        s.subject == "Counter" && s.trampolines.length == 3 &&
          decide (s.trampolines.map Trampoline.memberKey).Nodup) = true := by
    decide +kernel
  obtain ⟨a, ha, hdistinct⟩ := any_toOption_iff.1 hdistinct
  simp only [List.any_eq_true, Bool.and_eq_true, beq_iff_eq, decide_eq_true_eq] at hdistinct
  obtain ⟨s, hs, ⟨hsubject, hlength⟩, hnodup⟩ := hdistinct
  have hcounter : Sample.counter ∈ Sample.context.registry.classesIn "main" := by decide +kernel
  have hkeys : (Sample.counter.methods.map fun m => (View.of m).key).Nodup := by decide +kernel
  exact ⟨a, s, ha, hs, hsubject, hlength,
    (members_distinct_iff ha hcounter hkeys hs hsubject).1 hnodup⟩

end Context

/-- A class of the main module with a slot that overrides an inherited method. -/
def Sample.repeatedSlot : Class :=
  { counter with methods := [
      { name := "timerEvent", fullName := "Counter::timerEvent", role := .slot,
        dispatch := .impure, output := "void" }] }

/-- That class below its base. -/
def Sample.repeatingSlot : Context where
  registry := {
    classes := [{ object with methods := [
      { name := "timerEvent", fullName := "QObject::timerEvent", dispatch := .impure,
        output := "void" }] }, repeatedSlot]
    distinct := by decide }
  config := {}

/-- A generated subclass may define a member twice: as a slot of the class and as the override of an
inherited method. -/
theorem members_repeated :
    ∃ a s, Sample.repeatingSlot.generate "main" = .ok a ∧
      Sample.repeatedSlot ∈ Sample.repeatingSlot.registry.classesIn "main" ∧
      (Sample.repeatedSlot.methods.map fun m => (View.of m).key).Nodup ∧
      s ∈ a.implementation.subclasses ∧ s.subject = Sample.repeatedSlot.name ∧
      s.trampolines.map Trampoline.memberKey = [("timerEvent", none), ("timerEvent", none)] ∧
      ¬(s.trampolines.map Trampoline.memberKey).Nodup := by
  have hrepeated : (Sample.repeatingSlot.generate "main").toOption.any (fun a =>
      a.implementation.subclasses.any fun s => s.subject == Sample.repeatedSlot.name &&
        decide (s.trampolines.map Trampoline.memberKey =
          [("timerEvent", none), ("timerEvent", none)])) = true := by
    decide +kernel
  obtain ⟨a, ha, hrepeated⟩ := any_toOption_iff.1 hrepeated
  simp only [List.any_eq_true, Bool.and_eq_true, beq_iff_eq, decide_eq_true_eq] at hrepeated
  obtain ⟨s, hs, hsubject, hmembers⟩ := hrepeated
  exact ⟨a, s, ha, by decide +kernel, by decide +kernel, hs, hsubject, hmembers,
    by rw [hmembers]; decide⟩

end Bindery
