import Mathlib.Tactic.Lemma
import Mathlib.Data.List.Basic
import Bindery.Generator

/-!
# The classes that are emitted

Whatever order `Context.orderedClasses` puts the classes of a module into, it puts all of them there
and no others (`perm_of_emittedClasses`).  Both products of a module, its artifacts and its managed
contract, are made from that one list (`generate_eq_ok_iff`, `contract_eq_ok_iff`).
-/

namespace Bindery

namespace Registry

lemma eq_of_name_eq {r : Registry} {module : String} {b c : Class} (hb : b ∈ r.classesIn module)
    (hc : c ∈ r.classesIn module) (hname : b.name = c.name) : b = c := by
  have hfind := find?_name (mem_classesIn.1 hb).1
  rw [hname, find?_name (mem_classesIn.1 hc).1] at hfind
  exact (Option.some.inj hfind).symm

theorem perm_of_orderPasses {r : Registry} {module : String} {passes : ℕ} {placed : List String}
    {pending ordered : List Class} (h : r.orderPasses module passes placed pending = .ok ordered) :
    ordered.Perm pending := by
  induction passes generalizing placed pending ordered with
  | zero =>
    cases pending with
    | nil =>
      simp only [orderPasses, Except.ok.injEq] at h
      exact h ▸ List.Perm.nil
    | cons c rest => simp [orderPasses] at h
  | succ passes ih =>
    cases pending with
    | nil =>
      simp only [orderPasses, Except.ok.injEq] at h
      exact h ▸ List.Perm.nil
    | cons c rest =>
      simp only [orderPasses] at h
      cases hpass : r.orderPass module placed (c :: rest) with
      | mk taken left =>
        simp only [hpass] at h
        split at h
        · cases h
        · cases hrest : r.orderPasses module passes (taken.map Class.name ++ placed) left with
          | error e => simp [hrest, Except.map] at h
          | ok rest' =>
            simp only [hrest, Except.map, Except.ok.injEq] at h
            rw [← h]
            exact ((ih hrest).append_left taken).trans (perm_of_orderPass hpass)

end Registry

namespace Context

variable {ctx : Context} {module : String} {classes : List Class}

theorem perm_of_emittedClasses (h : ctx.emittedClasses module = .ok classes) :
    classes.Perm (ctx.registry.classesIn module) := by
  unfold emittedClasses at h
  split at h
  · cases h
  · unfold orderedClasses at h
    split at h
    · cases hpasses : ctx.registry.orderPasses module (ctx.registry.classesIn module).length []
          (ctx.registry.classesIn module) with
      | error left => simp [hpasses, Except.mapError] at h
      | ok ordered =>
        simp only [hpasses, Except.mapError, Except.ok.injEq] at h
        exact h ▸ Registry.perm_of_orderPasses hpasses
    · simp only [Except.ok.injEq] at h
      exact h ▸ List.mergeSort_perm _ _

lemma mem_emittedClasses (h : ctx.emittedClasses module = .ok classes) {c : Class} :
    c ∈ classes ↔ c ∈ ctx.registry.classes ∧ c.module = module := by
  rw [(perm_of_emittedClasses h).mem_iff, Registry.mem_classesIn]

lemma isMain_of_mem (h : ctx.emittedClasses module = .ok classes) {c : Class} (hc : c ∈ classes) :
    ctx.isMain c = ctx.config.isMain module := by
  rw [isMain, ((mem_emittedClasses h).1 hc).2]

lemma generate_eq_ok_iff {a : Artifacts} :
    ctx.generate module = .ok a ↔ ∃ classes, ctx.emittedClasses module = .ok classes ∧
      a = { module := module
            stem := ctx.config.moduleStem module
            header := ctx.header module classes
            implementation :=
              ctx.implementation module (ctx.config.moduleStem module) classes } := by
  unfold generate
  cases ctx.emittedClasses module with
  | error e => simp [Except.map]
  | ok classes => simp [Except.map, eq_comm]

lemma contract_eq_ok_iff {entries : List ContractEntry} :
    ctx.contract module = .ok entries ↔ ∃ classes, ctx.emittedClasses module = .ok classes ∧
      entries = classes.flatMap (ctx.classContract (ctx.config.isMain module)) := by
  unfold contract
  cases ctx.emittedClasses module with
  | error e => simp [Except.map]
  | ok classes => simp [Except.map, eq_comm]

end Context

end Bindery
