import Mathlib.Tactic.Lemma
import Mathlib.Data.List.Sort
import Bindery.Proofs.Provenance
import Bindery.Proofs.Sample
import Bindery.Proofs.Slots

/-!
# The headers that are included

An implementation compiles only if the native header of every class that it uses is included.  It
uses classes in many places: where a value is converted, where the object is seen as one of a class,
where a subclass is derived, where a method is named with its class.  `Implementation.Needs` lists
these places, in terms of what the type tokens of the methods mean and of what is written.

The list of includes is collected from what each part mentions (`ClassImplementation.mentioned`).
`includes_complete` says that the parts mention all that the implementation needs, so that whatever
has a header is included.
-/

namespace Bindery

/-! ## What an implementation needs -/

/-- The class that a callee sees the object as. -/
def Callee.receiver? : Callee → Option String
  | .construct _ => none
  | .destroy name => some name
  | .onClass _ _ => none
  | .onObject name _ _ => some name

/-- The class that values of a kind cannot be handled without: that of an object, the owner of an
enumeration, or the string class. -/
inductive TypeKind.Uses (stringClass : String) : TypeKind → String → Prop
  | object {name : String} {pointer isConst : Bool} :
      Uses stringClass (.object name pointer isConst) name
  | enumeration {owner name : String} : Uses stringClass (.enumeration owner name) owner
  | string : Uses stringClass .string stringClass

/-- The classes that an implementation uses, each where a C++ compiler has to know it. -/
inductive Implementation.Needs (ctx : Context) (i : Implementation) : String → Prop
  /-- A parameter of a native call is converted. -/
  | parameter {b : Body} {call : CallStatement} {p : Parameter × Nat} {k : TypeKind}
      {name : String} (hb : b ∈ i.bodies) (hcall : b.statement = .call call)
      (hp : p ∈ b.view.parameters) (hk : ctx.resolve? b.view p.1.type = some k)
      (hname : k.Uses ctx.stringClass name) : i.Needs ctx name
  /-- The result of a native call is converted. -/
  | output {b : Body} {call : CallStatement} {k : TypeKind} {name : String}
      (hb : b ∈ i.bodies) (hcall : b.statement = .call call)
      (hk : ctx.resolve? b.view b.view.outputToken = some k)
      (hname : k.Uses ctx.stringClass name) : i.Needs ctx name
  /-- A trampoline forwards a parameter. -/
  | forwarded {s : Subclass} {t : Trampoline} {p : Parameter × Nat} {k : TypeKind}
      {name : String} (hs : s ∈ i.subclasses) (ht : t ∈ s.trampolines)
      (hp : p ∈ ctx.hookParameters t.view) (hk : ctx.resolve? t.view p.1.type = some k)
      (hname : k.Uses ctx.stringClass name) : i.Needs ctx name
  /-- A trampoline returns what its callback puts out. -/
  | returned {s : Subclass} {t : Trampoline} {k : TypeKind} {name : String}
      (hs : s ∈ i.subclasses) (ht : t ∈ s.trampolines)
      (hk : ctx.resolve? t.view t.view.outputToken = some k)
      (hname : k.Uses ctx.stringClass name) : i.Needs ctx name
  /-- The object is seen as one of a class. -/
  | receiver {b : Body} {call : CallStatement} {name : String} (hb : b ∈ i.bodies)
      (hcall : b.statement = .call call) (hname : call.callee.receiver? = some name) :
      i.Needs ctx name
  /-- A generated subclass, as which the object may be seen, derives from a class. -/
  | base {s : Subclass} (hs : s ∈ i.subclasses) : i.Needs ctx s.base
  /-- A static method is called by the class that declares it. -/
  | static {b : Body} {call : CallStatement} {owner method : String} (hb : b ∈ i.bodies)
      (hcall : b.statement = .call call) (hcallee : call.callee = .onClass owner method) :
      i.Needs ctx b.view.method.owner
  /-- A signal is connected or disconnected by the class that declares it. -/
  | signal {b : Body} {h : HookStatement} (hb : b ∈ i.bodies) (hhook : b.statement = .hook h) :
      i.Needs ctx b.view.method.owner
  /-- A getter fetches a value of an enumeration. -/
  | getter {k : ClassImplementation} {g : ValueGetter} (hk : k ∈ i.classes)
      (hg : g ∈ k.getters) : i.Needs ctx g.owner
  /-- The accessors of an object name hand it on as a string. -/
  | objectName {s : Subclass} (hs : s ∈ i.subclasses) (hnamed : s.isNamed = true) :
      i.Needs ctx ctx.stringClass

/-! ## What its parts mention -/

lemma TypeKind.mem_mentioned_iff {stringClass name : String} {k : TypeKind} :
    name ∈ k.mentioned stringClass ↔ k.Uses stringClass name := by
  constructor
  · intro hname
    cases k with
    | void | primitive p => cases hname
    | string | object | enumeration =>
      obtain rfl := List.mem_singleton.1 hname
      constructor
  · intro huses
    cases huses with
    | object | enumeration | string => exact List.mem_singleton_self _

namespace ClassImplementation

variable {k : ClassImplementation} {stringClass name : String}

lemma mem_mentioned_of_body {b : Body} (hb : b ∈ k.defined)
    (h : name ∈ b.statement.mentioned stringClass) : name ∈ k.mentioned stringClass :=
  List.mem_append_right _ (List.mem_flatMap.2 ⟨b, hb, h⟩)

lemma mem_mentioned_of_getter {g : ValueGetter} (hg : g ∈ k.getters) :
    g.owner ∈ k.mentioned stringClass :=
  List.mem_append_left _ (List.mem_append_right _ (List.mem_map_of_mem hg))

lemma mem_mentioned_of_subclass {s : Subclass} (hs : k.subclass = some s)
    (h : name ∈ s.mentioned stringClass) : name ∈ k.mentioned stringClass := by
  refine List.mem_append_left _ (List.mem_append_left _ (List.mem_append_right _ ?_))
  rw [hs]
  exact h

end ClassImplementation

namespace Subclass

variable {s : Subclass} {stringClass name : String}

lemma mem_mentioned_of_trampoline {t : Trampoline} (ht : t ∈ s.trampolines)
    (h : name ∈ t.mentioned stringClass) : name ∈ s.mentioned stringClass :=
  List.mem_append_right _ (List.mem_flatMap.2 ⟨t, ht, h⟩)

lemma stringClass_mem_mentioned (hnamed : s.isNamed = true) :
    stringClass ∈ s.mentioned stringClass := by
  simp [mentioned, hnamed]

end Subclass

namespace Context

variable {ctx : Context} {main : Bool} {c subject : Class} {v : View} {name : String}

lemma call_of_statement {cast : String} {qualifier : Option String} {call : CallStatement}
    (hs : ctx.statement subject v cast qualifier = .ok (.call call)) :
    ctx.callArguments v = .ok call.arguments ∧
      ctx.resolve? v v.outputToken = some call.output ∧
      call.callee = ctx.callee subject v cast qualifier := by
  unfold statement at hs
  split at hs
  next => cases hs
  next =>
  obtain ⟨call', hcall, hsame⟩ := map_eq_ok.1 hs
  cases hsame
  simp only [callStatement, bind_eq_ok] at hcall
  obtain ⟨arguments, harguments, hcall⟩ := hcall
  cases houtput : ctx.resolve? v v.outputToken with
  | none => simp [houtput] at hcall
  | some k =>
    simp only [houtput, pure_eq_ok] at hcall
    rw [← hcall]
    exact ⟨harguments, rfl, rfl⟩

/-- The argument of a parameter is of the kind that the parameter's type means. -/
lemma exists_callArgument {arguments : List Argument} {p : Parameter × Nat} {k : TypeKind}
    (h : ctx.callArguments v = .ok arguments) (hp : p ∈ v.parameters)
    (hk : ctx.resolve? v p.1.type = some k) : ∃ a ∈ arguments, a.kind = k := by
  obtain ⟨a, ha, hargument⟩ := mem_of_mapM_eq_ok h hp
  refine ⟨a, ha, ?_⟩
  simp only [callArgument, hk, Except.ok.injEq] at hargument
  rw [← hargument]

lemma exists_callbackArgument {arguments : List Argument} {p : Parameter × Nat} {k : TypeKind}
    (h : ctx.callbackArguments v = .ok arguments) (hp : p ∈ ctx.hookParameters v)
    (hk : ctx.resolve? v p.1.type = some k) : ∃ a ∈ arguments, a.kind = k := by
  obtain ⟨a, ha, hargument⟩ := mem_of_mapM_eq_ok h hp
  refine ⟨a, ha, ?_⟩
  simp only [callbackArgument, hk] at hargument
  split at hargument
  · cases hargument
  · rw [← Except.ok.inj hargument]

lemma mem_mentioned_of_receiver {callee : Callee} (h : callee.receiver? = some name) :
    name ∈ callee.mentioned := by
  cases callee with
  | construct n => cases h
  | destroy n => simpa [Callee.receiver?, Callee.mentioned, eq_comm] using h
  | onClass owner method => cases h
  | onObject n qualifier method => simpa [Callee.receiver?, Callee.mentioned, eq_comm] using h

/-- A static method is called by the class that declares it. -/
lemma owner_of_callee {cast owner method : String} {qualifier : Option String}
    (h : ctx.callee subject v cast qualifier = .onClass owner method) : owner = v.method.owner := by
  unfold callee at h
  split at h
  · cases h
  · cases h
  split at h
  · cases h
    rfl
  · cases h

lemma base_mem_mentioned {s : Subclass} {stringClass : String}
    (hs : ctx.subclass? main c = some s) : s.base ∈ s.mentioned stringClass := by
  simp only [subclass?, Option.map_eq_some_iff] at hs
  obtain ⟨base, hbase, rfl⟩ := hs
  cases main with
  | true => simp [Subclass.mentioned]
  | false =>
    simp only [subclassBase?, Bool.false_eq_true, if_false, Option.some.injEq] at hbase
    simp [Subclass.mentioned, hbase]

/-! ## What is included -/

section
variable {module : String} {a : Artifacts}

lemma includes_of_generate (ha : ctx.generate module = .ok a) : ∃ mentioned,
    a.implementation.includes = ctx.includes mentioned ∧
      ∀ k ∈ a.implementation.classes, ∀ name ∈ k.mentioned ctx.stringClass, name ∈ mentioned := by
  obtain ⟨classes, -, rfl⟩ := generate_eq_ok_iff.1 ha
  exact ⟨_, rfl, fun k hk name hname => List.mem_flatMap.2 ⟨k, hk, hname⟩⟩

lemma mem_includes {mentioned : List String} :
    name ∈ ctx.includes mentioned ↔ name ∈ mentioned ∧ ctx.hasHeader name = true := by
  rw [includes, Text.mem_sorted, List.mem_filter, List.mem_eraseDups]

lemma pairwise_lt_includes (ctx : Context) (mentioned : List String) :
    (ctx.includes mentioned).Pairwise (· < ·) :=
  Text.pairwise_lt_sorted ((nodup_eraseDups _).filter _)

/-- What is included depends on the set of the names that are mentioned. -/
lemma includes_congr {mentioned mentioned' : List String}
    (h : ∀ name, name ∈ mentioned ↔ name ∈ mentioned') :
    ctx.includes mentioned = ctx.includes mentioned' := by
  refine (ctx.pairwise_lt_includes _).eq_of_mem_iff (ctx.pairwise_lt_includes _) fun name => ?_
  rw [mem_includes, mem_includes, h]

lemma exists_of_mem_subclasses (ha : ctx.generate module = .ok a) {s : Subclass}
    (hs : s ∈ a.implementation.subclasses) : ∃ k ∈ a.implementation.classes,
      k.subclass = some s ∧ ∃ c ∈ ctx.registry.classesIn module,
        k = ctx.classImplementation (ctx.config.isMain module) c ∧
        ctx.subclass? (ctx.config.isMain module) c = some s := by
  obtain ⟨k, hk, hsubclass⟩ := List.mem_filterMap.1 hs
  obtain ⟨c, hc, rfl⟩ := (mem_implementationClasses ha).1 hk
  exact ⟨_, hk, hsubclass, c, hc, rfl, (subclass_eq_some_iff.1 hsubclass).2⟩

lemma exists_of_mem_bodies (ha : ctx.generate module = .ok a) {b : Body}
    (hb : b ∈ a.implementation.bodies) : ∃ k ∈ a.implementation.classes, b ∈ k.defined ∧
      ∃ subject cast qualifier, ctx.statement subject b.view cast qualifier = .ok b.statement := by
  obtain ⟨k, hk, hb⟩ := List.mem_flatMap.1 hb
  obtain ⟨c, hc, rfl⟩ := (mem_implementationClasses ha).1 hk
  obtain ⟨-, subject, -, -, -, cast, qualifier, hs⟩ := defines_of_mem_defined hb
  exact ⟨_, hk, hb, subject, cast, qualifier, hs⟩

/-- Everything that an implementation needs is mentioned by one of its parts. -/
theorem mentioned_of_needs (ha : ctx.generate module = .ok a)
    (h : a.implementation.Needs ctx name) :
    ∃ k ∈ a.implementation.classes, name ∈ k.mentioned ctx.stringClass := by
  cases h with
  | parameter hb hcall hp hk hname =>
    obtain ⟨k, hkmem, hb, subject, cast, qualifier, hs⟩ := exists_of_mem_bodies ha hb
    rw [hcall] at hs
    obtain ⟨harguments, -, -⟩ := call_of_statement hs
    obtain ⟨argument, hmem, rfl⟩ := exists_callArgument harguments hp hk
    refine ⟨k, hkmem, ClassImplementation.mem_mentioned_of_body hb ?_⟩
    rw [hcall]
    exact List.mem_append_left _ (List.mem_append_left _
      (List.mem_flatMap.2 ⟨argument, hmem, TypeKind.mem_mentioned_iff.2 hname⟩))
  | output hb hcall hk hname =>
    obtain ⟨k, hkmem, hb, subject, cast, qualifier, hs⟩ := exists_of_mem_bodies ha hb
    rw [hcall] at hs
    obtain ⟨-, houtput, -⟩ := call_of_statement hs
    rw [hk] at houtput
    cases houtput
    refine ⟨k, hkmem, ClassImplementation.mem_mentioned_of_body hb ?_⟩
    rw [hcall]
    exact List.mem_append_left _ (List.mem_append_right _ (TypeKind.mem_mentioned_iff.2 hname))
  | forwarded hs ht hp hk hname =>
    obtain ⟨k, hkmem, hsubclass, -⟩ := exists_of_mem_subclasses ha hs
    obtain ⟨c, -, -, -, hok⟩ := isTrampoline_of_mem_subclasses ha hs ht
    obtain ⟨-, harguments, -⟩ := trampoline_eq_ok_iff.1 hok
    obtain ⟨argument, hmem, rfl⟩ := exists_callbackArgument harguments hp hk
    refine ⟨k, hkmem, ClassImplementation.mem_mentioned_of_subclass hsubclass ?_⟩
    refine Subclass.mem_mentioned_of_trampoline ht (List.mem_append_left _ ?_)
    exact List.mem_flatMap.2 ⟨argument, hmem, TypeKind.mem_mentioned_iff.2 hname⟩
  | returned hs ht hk hname =>
    obtain ⟨k, hkmem, hsubclass, -⟩ := exists_of_mem_subclasses ha hs
    obtain ⟨c, -, -, -, hok⟩ := isTrampoline_of_mem_subclasses ha hs ht
    obtain ⟨-, -, houtput, -⟩ := trampoline_eq_ok_iff.1 hok
    rw [hk] at houtput
    cases houtput
    refine ⟨k, hkmem, ClassImplementation.mem_mentioned_of_subclass hsubclass ?_⟩
    refine Subclass.mem_mentioned_of_trampoline ht (List.mem_append_right _ ?_)
    exact TypeKind.mem_mentioned_iff.2 hname
  | receiver hb hcall hname =>
    obtain ⟨k, hkmem, hb, -⟩ := exists_of_mem_bodies ha hb
    refine ⟨k, hkmem, ClassImplementation.mem_mentioned_of_body hb ?_⟩
    rw [hcall]
    exact List.mem_append_right _ (mem_mentioned_of_receiver hname)
  | base hs =>
    obtain ⟨k, hkmem, hsubclass, c, -, -, hbase⟩ := exists_of_mem_subclasses ha hs
    exact ⟨k, hkmem, ClassImplementation.mem_mentioned_of_subclass hsubclass
      (base_mem_mentioned hbase)⟩
  | static hb hcall hcallee =>
    obtain ⟨k, hkmem, hb, subject, cast, qualifier, hs⟩ := exists_of_mem_bodies ha hb
    rw [hcall] at hs
    obtain ⟨-, -, hsame⟩ := call_of_statement hs
    rw [hcallee] at hsame
    refine ⟨k, hkmem, ClassImplementation.mem_mentioned_of_body hb ?_⟩
    rw [hcall, ← owner_of_callee hsame.symm]
    refine List.mem_append_right _ ?_
    rw [hcallee]
    exact List.mem_singleton_self _
  | signal hb hhook =>
    obtain ⟨k, hkmem, hb, subject, cast, qualifier, hs⟩ := exists_of_mem_bodies ha hb
    rw [hhook] at hs
    obtain ⟨-, rfl⟩ := hook_of_statement hs
    refine ⟨k, hkmem, ClassImplementation.mem_mentioned_of_body hb ?_⟩
    rw [hhook]
    exact List.mem_singleton_self _
  | getter hk hg => exact ⟨_, hk, ClassImplementation.mem_mentioned_of_getter hg⟩
  | objectName hs hnamed =>
    obtain ⟨k, hkmem, hsubclass, -⟩ := exists_of_mem_subclasses ha hs
    exact ⟨k, hkmem, ClassImplementation.mem_mentioned_of_subclass hsubclass
      (Subclass.stringClass_mem_mentioned hnamed)⟩

/-- Whatever a module is generated to, its includes are strictly increasing, and among them is every
class with a header that the implementation needs. -/
theorem includes_complete (ha : ctx.generate module = .ok a) :
    a.implementation.includes.Pairwise (· < ·) ∧
      ∀ name, a.implementation.Needs ctx name → ctx.hasHeader name = true →
        name ∈ a.implementation.includes := by
  obtain ⟨mentioned, hincludes, hmentioned⟩ := includes_of_generate ha
  constructor
  · rw [hincludes]
    exact Text.pairwise_lt_sorted ((nodup_eraseDups mentioned).filter _)
  · intro name hneeds hheader
    obtain ⟨k, hk, hname⟩ := mentioned_of_needs ha hneeds
    rw [hincludes]
    exact mem_includes.2 ⟨hmentioned k hk name hname, hheader⟩

end

end Context

/-- The generated class `Counter` derives from `QObject`, whose header is included. -/
theorem includes_complete_sample :
    ∃ a, Sample.context.generate "main" = .ok a ∧ "QObject" ∈ a.implementation.includes := by
  have hderives : (Sample.context.generate "main").toOption.any (fun a =>
      a.implementation.subclasses.any (·.base == "QObject")) = true := by
    decide +kernel
  obtain ⟨a, ha, hderives⟩ := any_toOption_iff.1 hderives
  obtain ⟨s, hs, hbase⟩ := List.any_eq_true.1 hderives
  have hneeds : a.implementation.Needs Sample.context "QObject" := by
    have hbase : s.base = "QObject" := by simpa using hbase
    exact hbase ▸ .base hs
  have hheader : Sample.context.hasHeader "QObject" = true := by decide +kernel
  exact ⟨a, ha, (Context.includes_complete ha).2 "QObject" hneeds hheader⟩

end Bindery
