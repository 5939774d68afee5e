import Mathlib.Data.List.Forall2
import Mathlib.Tactic.Lemma
import Bindery.Proofs.Callbacks
import Bindery.Proofs.Definitions
import Bindery.Proofs.Provenance
import Bindery.Proofs.Slots

/-!
# Both sides of the boundary

A call crosses the boundary in two ways.  A managed method calls the C function of its view, whose
body calls the native method; a trampoline calls the managed callback of its view.  What is declared
on one side and what is passed on the other is written down by functions that know nothing of each
other.

All of them go over the parameters of the view and resolve the type of each.  So every list of
parameters that is declared, and every list of expressions that is passed, is a rendering of one
list of arguments (`Context.Carry`), and whatever they agree on is read off that list
(`calls_agree`, `callbacks_agree`).

The outputs agree because nothing at all is the only kind that is spelled as nothing.  That is a
fact about the primitives that a token can name; the empty text could be given as the spelling of
others.

A declaration can only be called if there is a body for it, and for a virtual member template there
is none (`call_without_body`).
-/

namespace Bindery

/-! ## Lists of parameters -/

namespace Context

variable {ctx : Context} {v : View} {p : Parameter × Nat} {parameters : List (Parameter × Nat)}
  {arguments : List Argument}

/-- Arguments carry the values of parameters, one for each and in the same order: each has the kind
that the type of its parameter resolves to, and the name by which the parameter goes on every
surface. -/
def Carry (ctx : Context) (v : View) (parameters : List (Parameter × Nat))
    (arguments : List Argument) : Prop :=
  List.Forall₂ (fun p x => ctx.resolve? v p.1.type = some x.kind ∧ x.kind.isVoid = false ∧
    x.name = cleanName p.1.name p.2) parameters arguments

/-- An argument as the header declares it. -/
def headerDeclared (ctx : Context) (x : Argument) : Declared :=
  ⟨ctx.spell .header x.kind, x.name⟩

/-- An argument as a managed method declares it. -/
def managedDeclared (ctx : Context) (x : Argument) : Declared :=
  ⟨ctx.managedType true x.kind, x.name⟩

/-- An argument as a managed callback declares it. -/
def callbackDeclared (ctx : Context) (x : Argument) : Declared :=
  ⟨ctx.spell .callback x.kind, x.name⟩

lemma callbackArgument_eq_ok_iff {x : Argument} :
    ctx.callbackArgument v p = .ok x ↔ ctx.resolve? v p.1.type = some x.kind ∧
      x.kind.isVoid = false ∧ x.name = cleanName p.1.name p.2 := by
  unfold callbackArgument
  cases ctx.resolve? v p.1.type with
  | none => simp
  | some k =>
    cases x with
    | mk kind name =>
      by_cases hk : k = kind
      · subst hk
        cases hvoid : k.isVoid <;> simp [hvoid, eq_comm]
      · cases hvoid : k.isVoid <;> simp [hvoid, hk]

lemma carry_callbackArguments :
    ctx.callbackArguments v = .ok arguments ↔ ctx.Carry v (ctx.hookParameters v) arguments := by
  simp only [callbackArguments, mapM_eq_ok_iff, callbackArgument_eq_ok_iff, Carry]

lemma exists_carry (h : ∀ p ∈ parameters, ctx.Carries v p) :
    ∃ arguments, ctx.Carry v parameters arguments := by
  obtain ⟨arguments, harguments⟩ := mapM_isOk_iff.2 fun p hp =>
    callbackArgument_isOk_iff.2 (h p hp)
  simp only [mapM_eq_ok_iff, callbackArgument_eq_ok_iff] at harguments
  exact ⟨arguments, harguments⟩

/-- What is made of each parameter alone is a rendering of the arguments. -/
lemma Carry.mapM_eq {β : Type} {f : Parameter × Nat → Except Obstacle β} {g : Argument → β}
    (h : ctx.Carry v parameters arguments)
    (hrender : ∀ p x, ctx.resolve? v p.1.type = some x.kind → x.kind.isVoid = false →
      x.name = cleanName p.1.name p.2 → f p = .ok (g x)) :
    parameters.mapM f = .ok (arguments.map g) := by
  rw [mapM_eq_ok_iff, List.forall₂_map_right_iff]
  exact h.imp fun p x ⟨hkind, hvoid, hname⟩ => hrender p x hkind hvoid hname

lemma Carry.callArguments_eq (h : ctx.Carry v v.parameters arguments) :
    ctx.callArguments v = .ok arguments := by
  have hrendered : v.parameters.mapM (ctx.callArgument v) = .ok (arguments.map id) :=
    h.mapM_eq fun p x hkind _ hname => by simp [callArgument, hkind, ← hname]
  rwa [List.map_id] at hrendered

lemma Carry.headerParameters_eq (h : ctx.Carry v v.parameters arguments)
    (hrole : v.role ≠ .signal) :
    ctx.headerParameters v =
      .ok ((if v.hasReceiver then [receiver] else []) ++ arguments.map ctx.headerDeclared) := by
  have hrendered : v.parameters.mapM (ctx.headerParameter v) =
      .ok (arguments.map ctx.headerDeclared) :=
    h.mapM_eq fun p x hkind hvoid hname => by
      simp [headerParameter, hkind, hvoid, headerDeclared, hname]
  have hrole : (v.role == .signal) = false := by simpa using hrole
  unfold headerParameters
  rw [hrendered]
  simp [hrole, pure, Except.pure]

lemma Carry.managedInput_eq (h : ctx.Carry v v.parameters arguments)
    (hdirection : v.direction = .plain) (hrole : v.role ≠ .signal) :
    ctx.managedInput v = .ok (arguments.map ctx.managedDeclared) := by
  have hown : ¬(v.isConnectable = true ∧ ¬v.dispatch = .impure) := by
    simp [View.isConnectable, hrole]
  have hrendered : v.parameters.mapM (ctx.managedParameter true v) =
      .ok (arguments.map ctx.managedDeclared) :=
    h.mapM_eq fun p x hkind hvoid hname => by
      simp [managedParameter, hkind, hvoid, managedDeclared, hname]
  simpa [managedInput, hdirection, hown] using hrendered

lemma Carry.callbackInput_eq (h : ctx.Carry v (ctx.hookParameters v) arguments) :
    ctx.managedInput (v.toward .callback) =
      .ok (callbackLead ++ arguments.map ctx.callbackDeclared) := by
  have hresolve : ctx.resolve? (v.toward .callback) = ctx.resolve? v := resolve?_congr rfl rfl
  have hparameters : ctx.hookParameters (v.toward .callback) = ctx.hookParameters v := rfl
  have hdirection : (v.toward .callback).direction = .callback := rfl
  have hrendered : (ctx.hookParameters v).mapM (ctx.callbackParameter (v.toward .callback)) =
      .ok (arguments.map ctx.callbackDeclared) :=
    h.mapM_eq fun p x hkind _ hname => by
      simp [callbackParameter, hresolve, hkind, callbackDeclared, hname]
  unfold managedInput
  rw [hdirection, hparameters, hrendered]
  rfl

end Context

/-! ## Spelled outputs -/

/-- A kind that a token can mean: a primitive is one of those that cross the boundary. -/
def TypeKind.Known : TypeKind → Prop
  | primitive p => p ∈ Primitive.all
  | _ => True

/-- No primitive is spelled as nothing, or as what C calls nothing. -/
lemma Primitive.spelled_of_mem : ∀ p ∈ Primitive.all,
    p.header ≠ "" ∧ p.header ≠ "void" ∧ p.managed ≠ "" ∧ p.callback ≠ "" := by
  decide

namespace TypeKind

variable {k : TypeKind} {stringClass : String}

lemma header_spelled (hk : k.Known) (hvoid : k.isVoid = false) :
    k.spelling stringClass .header ≠ "" ∧ k.spelling stringClass .header ≠ "void" := by
  cases k with
  | void => cases hvoid
  | primitive p => exact ⟨(Primitive.spelled_of_mem p hk).1, (Primitive.spelled_of_mem p hk).2.1⟩
  | string | object | enumeration => simp [spelling]

lemma callback_spelled (hk : k.Known) (hvoid : k.isVoid = false) :
    k.spelling stringClass .callback ≠ "" := by
  cases k with
  | void => cases hvoid
  | primitive p => exact (Primitive.spelled_of_mem p hk).2.2.2
  | string | object | enumeration => simp [spelling]

lemma managed_spelled (hk : k.Known) (hvoid : k.isVoid = false) :
    k.managedSpelling stringClass false ≠ "" := by
  cases k with
  | void => cases hvoid
  | primitive p => exact (Primitive.spelled_of_mem p hk).2.2.1
  | string => simp [managedSpelling, spelling]
  | object name pointer isConst =>
    intro h
    simpa [managedSpelling] using congrArg String.toList h
  | enumeration owner name =>
    intro h
    simpa [managedSpelling, spelling] using congrArg String.toList h

end TypeKind

namespace Context

variable {ctx : Context} {v : View} {k : TypeKind}

lemma known_of_valueKind? {t : TypeToken} {k' : TypeKind} (hk' : k'.Known)
    (h : valueKind? t k' = some k) : k.Known := by
  unfold valueKind? at h
  split at h
  · exact Option.some.inj h ▸ hk'
  · cases h

lemma known_of_namedKind? {scope : String} {t : TypeToken} (h : ctx.namedKind? scope t = some k) :
    k.Known := by
  unfold namedKind? at h
  split at h
  · exact known_of_valueKind? (show TypeKind.Known .string from trivial) h
  split at h
  · -- a class of the registry
    split at h
    · exact Option.some.inj h ▸ trivial
    split at h
    · exact Option.some.inj h ▸ trivial
    · cases h
  split at h
  next owner e _ =>
    exact known_of_valueKind? (show TypeKind.Known (.enumeration owner.name e.name) from trivial) h
  split at h
  next p hp =>
    have hp : TypeKind.Known (.primitive p) := List.mem_of_find?_eq_some hp
    exact known_of_valueKind? hp h
  next => cases h

lemma known_of_resolve? {text : String} (h : ctx.resolve? v text = some k) : k.Known := by
  unfold resolve? at h
  simp only at h
  split at h
  · exact Option.some.inj h ▸ trivial
  unfold tokenKind? at h
  split at h
  · split at h
    · exact Option.some.inj h ▸ trivial
    · cases h
  split at h
  · cases h
  · exact known_of_namedKind? h

/-- C returns `void` exactly where nothing is put out. -/
lemma headerOutput_eq_void_iff {output : String} (hdirection : v.direction.isHook = false)
    (hk : ctx.resolve? v v.outputToken = some k) (houtput : ctx.headerOutput v = .ok output) :
    output = "void" ↔ k.isVoid = true := by
  have hsurface : ctx.outputSurface v k .header = .header := rfl
  simp only [headerOutput, hdirection, spellOutput, hk, hsurface, Bool.false_eq_true, if_false,
    ok_bind, pure_eq_ok] at houtput
  cases hvoid : k.isVoid with
  | true =>
    have hspelled : ctx.spell .header k = "" := by
      cases k with
      | void => rfl
      | primitive | string | object | enumeration => cases hvoid
    rw [← houtput, hspelled]
    decide
  | false =>
    have hknown : k.Known := known_of_resolve? hk
    have hspelled : ctx.spell .header k ≠ "" ∧ ctx.spell .header k ≠ "void" :=
      TypeKind.header_spelled hknown hvoid
    have hempty : (ctx.spell .header k == "") = false := by simpa using hspelled.1
    rw [← houtput, hempty]
    simpa using hspelled.2

lemma managedOutput_eq_empty_iff {output : String} (hdirection : v.direction.isHook = false)
    (hk : ctx.resolve? v v.outputToken = some k) (houtput : ctx.managedOutput v = .ok output) :
    output = "" ↔ k.isVoid = true := by
  simp only [managedOutput, hdirection, hk, Bool.false_eq_true, if_false, pure_eq_ok] at houtput
  have hknown : k.Known := known_of_resolve? hk
  cases hvoid : k.isVoid with
  | true =>
    cases k with
    | void =>
      have hspelled : output = "" := by rw [← houtput]; rfl
      simp [hspelled]
    | primitive | string | object | enumeration => cases hvoid
  | false =>
    simp only [Bool.false_eq_true, iff_false]
    rw [← houtput]
    split
    · exact TypeKind.managed_spelled hknown hvoid
    next hother =>
      -- another spelling than the managed one is that of callbacks
      have hsurface : ctx.outputSurface v k .managed = .managed ∨
          ctx.outputSurface v k .managed = .callback := by
        simp only [outputSurface]
        split
        · exact .inr rfl
        · exact .inl rfl
      rcases hsurface with hsurface | hsurface
      · simp [hsurface] at hother
      rw [hsurface]
      exact TypeKind.callback_spelled hknown hvoid

end Context

/-! ## Calls of native methods -/

/-- The C declaration of a view and its managed signature agree, on these arguments. -/
structure Context.CallAgrees (ctx : Context) (v : View) (q : Prototype) (s : ManagedSignature)
    (arguments : List Argument) : Prop where
  /-- The arguments carry the parameters of the method. -/
  carry : ctx.Carry v v.parameters arguments
  /-- C is given the object first exactly if the managed side has a receiver. -/
  object : q.parameters.head? = some receiver ↔ s.receiver ≠ none
  /-- After the object, C declares the arguments. -/
  native : q.parameters =
    (if s.receiver = none then [] else [receiver]) ++ arguments.map ctx.headerDeclared
  managed : s.parameters = arguments.map ctx.managedDeclared
  output : q.output = "void" ↔ s.output = ""

/-- A body hands on these arguments: its statement is a call with them and, unless the call destroys
the object, they stand in its text, each converted from C. -/
def Context.HandsOn (ctx : Context) (b : Body) (arguments : List Argument) : Prop :=
  ∃ call, b.statement = .call call ∧ call.arguments = arguments ∧
    (b.view.role ≠ .destructor → ∃ before after,
      call.text ctx.stringClass = before ++ "(" ++ Text.commaJoin
        (arguments.map fun x => x.kind.headerToNative ctx.stringClass x.name) ++ ")" ++ after)

lemma TypeKind.nativeToHeader_eq (k : TypeKind) (expr : String) :
    ∃ before after, k.nativeToHeader expr = before ++ expr ++ after := by
  unfold nativeToHeader
  split
  next => exact ⟨"qstrdup(", ".toUtf8().constData())", by simp [String.append_assoc]⟩
  next name => exact ⟨"const_cast<" ++ name ++ "*>(", ")", by simp [String.append_assoc]⟩
  next name _ => exact ⟨"new " ++ name ++ "(", ")", by simp [String.append_assoc]⟩
  next => exact ⟨"", "", by simp⟩

namespace CallStatement

variable {c : CallStatement} {stringClass : String}

lemma returning_eq (c : CallStatement) (call : String) :
    ∃ before after, c.returning call = before ++ call ++ after := by
  unfold returning
  split
  · exact ⟨"", "", by simp⟩
  · obtain ⟨before, after, h⟩ := c.output.nativeToHeader_eq call
    exact ⟨"return " ++ before, after, by rw [h]; simp [String.append_assoc]⟩

lemma text_eq (h : ∀ name, c.callee ≠ .destroy name) :
    ∃ before after, c.text stringClass =
      before ++ "(" ++ c.argumentText stringClass ++ ")" ++ after := by
  cases hcallee : c.callee with
  | construct name =>
    exact ⟨"return new " ++ name, "", by simp [text, hcallee, String.append_assoc]⟩
  | destroy name => exact absurd hcallee (h name)
  | onClass owner method =>
    obtain ⟨before, after, hreturning⟩ := c.returning_eq
      (owner ++ "::" ++ method ++ ("(" ++ c.argumentText stringClass ++ ")"))
    refine ⟨before ++ owner ++ "::" ++ method, after, ?_⟩
    simp only [text, hcallee]
    rw [hreturning]
    simp only [String.append_assoc]
  | onObject name qualifier method =>
    obtain ⟨before, after, hreturning⟩ := c.returning_eq (seenAs name ++ "->" ++
      qualifier.elim "" (· ++ "::") ++ method ++ ("(" ++ c.argumentText stringClass ++ ")"))
    refine ⟨before ++ seenAs name ++ "->" ++ qualifier.elim "" (· ++ "::") ++ method, after, ?_⟩
    simp only [text, hcallee]
    rw [hreturning]
    simp only [String.append_assoc]

end CallStatement

namespace Context

variable {ctx : Context} {main : Bool} {c subject : Class} {v : View} {q : Prototype}
  {arguments : List Argument}

lemma callee_ne_destroy (hrole : v.role ≠ .destructor) (cast : String) (qualifier : Option String)
    (name : String) : ctx.callee c v cast qualifier ≠ .destroy name := by
  unfold callee
  split
  · exact Callee.noConfusion
  next hdestructor => exact absurd hdestructor hrole
  · split <;> exact Callee.noConfusion

/-- No parameter is declared like the object, whose name is reserved. -/
lemma cleanName_ne_ptr (name : String) (index : Nat) : cleanName name index ≠ "ptr" := by
  unfold cleanName
  split
  · intro h
    have hchars := congrArg String.toList h
    rw [String.toList_append] at hchars
    cases hchars
  split
  · intro h
    have hlast := congrArg (fun s => s.toList.getLast?) h
    simp at hlast
  next hfree =>
    rintro rfl
    exact hfree (by decide)

lemma Carry.head?_ne_receiver {parameters : List (Parameter × Nat)}
    (h : ctx.Carry v parameters arguments) :
    (arguments.map ctx.headerDeclared).head? ≠ some receiver := by
  cases h with
  | nil => simp
  | cons hcarried _ =>
    rw [List.map_cons, List.head?_cons, ne_eq, Option.some.injEq]
    intro hsame
    exact cleanName_ne_ptr _ _ (hcarried.2.2.symm.trans (congrArg Declared.name hsame))

/-- A declared view that is called has a managed signature, and the two agree. -/
theorem exists_callAgrees (hv : ctx.Candidate main c subject v)
    (hcheck : ctx.checkMethod subject v = .ok ()) (hq : ctx.prototype v = .ok q)
    (hdirection : v.direction = .plain) :
    ∃ s arguments, ctx.managedSignature v = .ok s ∧ ctx.CallAgrees v q s arguments := by
  have hhook : v.direction.isHook = false := by rw [hdirection]; rfl
  have hrole : v.role ≠ .signal := fun hsignal => by
    have hhook' := hv.isHook_iff.2 hsignal
    rw [hhook] at hhook'
    cases hhook'
  obtain ⟨-, hresolves, hcarries⟩ := prototype_isOk_iff.1 ⟨q, hq⟩
  obtain ⟨arguments, hcarry⟩ := exists_carry (hcarries hrole)
  obtain ⟨k, hk⟩ := hresolves hhook
  obtain ⟨s, hs⟩ : ∃ s, ctx.managedSignature v = .ok s :=
    (managedSignature_isOk_iff hv hcheck).2 fun h => by
      rw [hdirection] at h
      cases h.1
  refine ⟨s, arguments, hs, ?_⟩
  obtain ⟨-, hheaderOutput, hnative⟩ := prototype_eq_ok_iff.1 hq
  obtain ⟨-, hmanaged, hmanagedOutput, hreceiver⟩ := managedSignature_eq_ok_iff.1 hs
  rw [hcarry.headerParameters_eq hrole, Except.ok.injEq] at hnative
  rw [hcarry.managedInput_eq hdirection hrole, Except.ok.injEq] at hmanaged
  have hvoid : q.output = "void" ↔ s.output = "" :=
    (headerOutput_eq_void_iff hhook hk hheaderOutput).trans
      (managedOutput_eq_empty_iff hhook hk hmanagedOutput).symm
  cases hobject : v.hasReceiver with
  | true =>
    rw [hobject, if_pos rfl] at hnative hreceiver
    exact ⟨hcarry, by simp [← hnative, hreceiver], by simp [← hnative, hreceiver], hmanaged.symm,
      hvoid⟩
  | false =>
    rw [hobject, if_neg Bool.false_ne_true] at hnative hreceiver
    refine ⟨hcarry, ?_, by simp [← hnative, hreceiver], hmanaged.symm, hvoid⟩
    rw [hreceiver, ← hnative, List.nil_append]
    simp only [ne_eq, not_true_eq_false, iff_false]
    exact hcarry.head?_ne_receiver

lemma handsOn_of_defines {b : Body} (hb : ctx.Defines main c b)
    (hdirection : b.view.direction = .plain)
    (hcarry : ctx.Carry b.view b.view.parameters arguments) : ctx.HandsOn b arguments := by
  obtain ⟨subject, -, -, -, cast, qualifier, hs⟩ := hb
  have hhook : b.view.direction.isHook = false := by rw [hdirection]; rfl
  simp only [statement, hhook, Bool.false_eq_true, if_false] at hs
  obtain ⟨call, hcall, hstatement⟩ := map_eq_ok.1 hs
  simp only [callStatement, hcarry.callArguments_eq, ok_bind] at hcall
  split at hcall
  next output hk =>
    rw [pure_eq_ok] at hcall
    subst hcall
    refine ⟨_, hstatement.symm, rfl, fun hrole => ?_⟩
    exact CallStatement.text_eq (callee_ne_destroy hrole cast qualifier)
  next => cases hcall

/-! ## Callbacks of trampolines -/

/-- A callback signature is that of the callback that a trampoline calls. -/
structure CallbackAgrees (ctx : Context) (t : Trampoline) (s : ManagedSignature) : Prop where
  receiver : s.receiver = none
  name : s.name = t.callback
  /-- The trampoline passes the parameters of the method that are forwarded. -/
  carry : ctx.Carry t.view (ctx.hookParameters t.view) t.arguments
  /-- After the object and the name of the method, the callback declares what is passed. -/
  parameters : s.parameters = callbackLead ++ t.arguments.map ctx.callbackDeclared
  /-- The trampoline calls the callback with the object, the name of the method and its arguments,
  each converted. -/
  call : t.call = s.name ++ "(" ++ Text.commaJoin
    (t.object :: ("\"" ++ t.view.name ++ "\"") ::
      t.arguments.map fun x => x.kind.nativeToCallback x.name) ++ ")"
  /-- What the callback puts out is returned. -/
  statement : t.statement ctx.stringClass = if s.output = "" then t.call ++ ";"
    else "return " ++ t.output.callbackToNative ctx.stringClass t.call ++ ";"

theorem exists_callbackAgrees {member : String} {t : Trampoline}
    (ht : ctx.trampoline c member t.view = .ok t) :
    ∃ s, ctx.callbackSignature t.view = .ok s ∧ ctx.CallbackAgrees t s := by
  obtain ⟨s, hs, hname⟩ := callbackSignature_of_trampoline ht
  obtain ⟨-, harguments, hk, -⟩ := trampoline_eq_ok_iff.1 ht
  obtain ⟨-, hinput, houtput, hreceiver⟩ := callbackSignature_eq_ok_iff.1 hs
  have hcarry : ctx.Carry t.view (ctx.hookParameters t.view) t.arguments :=
    carry_callbackArguments.1 harguments
  rw [hcarry.callbackInput_eq, Except.ok.injEq] at hinput
  have hresolve : ctx.resolve? (t.view.toward .callback) = ctx.resolve? t.view :=
    resolve?_congr rfl rfl
  have htoken : (t.view.toward .callback).outputToken = t.view.outputToken :=
    View.outputToken_congr rfl
  have hk' : ctx.resolve? (t.view.toward .callback) (t.view.toward .callback).outputToken =
      some t.output := by
    rw [hresolve, htoken]
    exact hk
  have hvoid : s.output = "" ↔ t.output.isVoid = true :=
    managedOutput_eq_empty_iff rfl hk' houtput
  refine ⟨s, hs, hreceiver, hname, hcarry, hinput.symm, by rw [hname]; rfl, ?_⟩
  unfold Trampoline.statement
  exact if_congr hvoid.symm rfl rfl

/-! ## Modules -/

variable {module : String} {a : Artifacts}

/-- In whatever is generated, every trampoline calls the callback that the callback signature of its
view declares.  The signature exists; after the object and the name of the method it declares a
parameter for each argument that the trampoline passes, in the same order, under the cleaned name of
the forwarded parameter and in the callback spelling of the kind by which the argument is converted;
and it has an output exactly if the trampoline returns what the callback puts out. -/
theorem callbacks_agree (ha : ctx.generate module = .ok a) {k : ClassImplementation}
    (hk : k ∈ a.implementation.classes) {t : Trampoline} (ht : t ∈ k.trampolines) :
    ∃ s, ctx.callbackSignature t.view = .ok s ∧ ctx.CallbackAgrees t s := by
  obtain ⟨c, hc, rfl⟩ := (mem_implementationClasses ha).1 hk
  obtain ⟨-, -, hok⟩ := isTrampoline_of_mem (isMain_of_mem_classesIn hc) ht
  exact exists_callbackAgrees hok

/-- The callbacks of a main-module class with a signal, a slot and an inherited virtual method
agree with its trampolines. -/
theorem callbacks_agree_sample :
    ∃ a, Sample.context.generate "main" = .ok a ∧
      ∃ k ∈ a.implementation.classes, ∃ t ∈ k.trampolines, t.callback = "callbackCounterLabel" ∧
        ∃ s, Sample.context.callbackSignature t.view = .ok s ∧
          Sample.context.CallbackAgrees t s := by
  have hlabel : (Sample.context.generate "main").toOption.any (fun a =>
      a.implementation.classes.any fun k =>
        k.trampolines.any (·.callback == "callbackCounterLabel")) = true := by
    decide +kernel
  obtain ⟨a, ha, hlabel⟩ := any_toOption_iff.1 hlabel
  simp only [List.any_eq_true, beq_iff_eq] at hlabel
  obtain ⟨k, hk, t, ht, hname⟩ := hlabel
  exact ⟨a, ha, k, hk, t, ht, hname, callbacks_agree ha hk ht⟩

/-- In whatever is generated, take a wrapper that the header declares for a call.  The managed
signature of its view exists and agrees with the declaration: C is given the object first exactly
if the managed side has a receiver, both declare the same arguments under the same names and in the
same order, each in a spelling of its kind, and C returns `void` exactly if the managed side has no
output.  Every body of the view defines the declared function and hands on these arguments, each
converted by its kind, unless it destroys the object.  There is such a body unless the class of the
wrapper declares a virtual member template. -/
theorem calls_agree (ha : ctx.generate module = .ok a) {h : ClassHeader}
    (hh : h ∈ a.header.classes) {d : Declaration} (hd : d ∈ h.declared)
    (hdirection : d.view.direction = .plain) :
    ∃ s arguments, ctx.managedSignature d.view = .ok s ∧
      ctx.CallAgrees d.view d.prototype s arguments ∧
      (∀ b ∈ a.implementation.bodies, b.view = d.view →
        b.prototype = d.prototype ∧ ctx.HandsOn b arguments) ∧
      ((∀ c ∈ ctx.registry.classesIn module, c.name = h.name → ∀ m ∈ c.methods,
        m.isVirtualTemplate = false) → ∃ b ∈ a.implementation.bodies, b.view = d.view) := by
  obtain ⟨c, hc, rfl⟩ := (mem_headerClasses ha).1 hh
  obtain ⟨-, subject, hcandidate, hcheck, hq⟩ := declares_of_mem_declared hd
  obtain ⟨s, arguments, hs, hagrees⟩ := exists_callAgrees hcandidate hcheck hq hdirection
  refine ⟨s, arguments, hs, hagrees, fun b hb hview => ?_, fun hc' => ?_⟩
  · obtain ⟨c', -, hb⟩ := (mem_bodies ha).1 hb
    obtain ⟨-, hdefines⟩ := defines_of_mem_defined hb
    have hsame : ctx.prototype b.view = .ok b.prototype := by
      obtain ⟨-, -, -, hq', -⟩ := hdefines
      exact hq'
    rw [hview, hq, Except.ok.injEq] at hsame
    have hcarry : ctx.Carry b.view b.view.parameters arguments := by
      rw [hview]
      exact hagrees.carry
    exact ⟨hsame.symm, handsOn_of_defines hdefines (hview ▸ hdirection) hcarry⟩
  · obtain ⟨hdefined, -⟩ := ctx.classBodies_agree (ctx.config.isMain module) (hc' c hc rfl)
    rw [← hdefined] at hd
    obtain ⟨b, hb, hsame⟩ := List.mem_map.1 hd
    exact ⟨b, (mem_bodies ha).2 ⟨c, hc, hb⟩, congrArg Declaration.view hsame⟩

/-- The call that emits a signal of a main-module class agrees on both sides, and has a body. -/
theorem calls_agree_sample :
    ∃ a, Sample.context.generate "main" = .ok a ∧
      ∃ h ∈ a.header.classes, ∃ d ∈ h.declared, d.prototype.symbol = "Counter_Changed" ∧
        ∃ s arguments, Sample.context.managedSignature d.view = .ok s ∧
          Sample.context.CallAgrees d.view d.prototype s arguments ∧
          ∃ b ∈ a.implementation.bodies, b.view = d.view ∧ Sample.context.HandsOn b arguments := by
  have hchanged : (Sample.context.generate "main").toOption.any (fun a =>
      a.header.classes.any fun h => h.declared.any fun d =>
        d.prototype.symbol == "Counter_Changed" && d.view.direction == .plain) = true := by
    decide +kernel
  have hmembers : ∀ c ∈ Sample.context.registry.classesIn "main", ∀ m ∈ c.methods,
      m.isVirtualTemplate = false := by decide +kernel
  obtain ⟨a, ha, hchanged⟩ := any_toOption_iff.1 hchanged
  simp only [List.any_eq_true, Bool.and_eq_true, beq_iff_eq] at hchanged
  obtain ⟨h, hh, d, hd, hsymbol, hdirection⟩ := hchanged
  obtain ⟨s, arguments, hs, hagrees, hbodies, hexists⟩ := calls_agree ha hh hd hdirection
  obtain ⟨b, hb, hview⟩ := hexists fun c hc _ => hmembers c hc
  exact ⟨a, ha, h, hh, d, hd, hsymbol, s, arguments, hs, hagrees, b, hb, hview,
    (hbodies b hb hview).2⟩

end Context

/-- A class with one method, a virtual member template. -/
def Sample.virtualTemplate : Context where
  registry := {
    classes := [{
      name := "QVariant"
      module := "QtCore"
      methods := [
        { name := "setKind", fullName := "QVariant::setKind", dispatch := .impure, output := "void",
          parameters := [⟨"kind", "int"⟩], placeholder := some "T",
          instantiations := [⟨"Int", "int"⟩] }] }]
    distinct := by simp }
  config := {}

/-- The header declares a function for it to be called with an argument, and there is no body that
would hand the argument on. -/
theorem call_without_body :
    ∃ a, Sample.virtualTemplate.generate "QtCore" = .ok a ∧
      ∃ h ∈ a.header.classes, ∃ d ∈ h.declared, d.view.direction = .plain ∧
        d.prototype = ⟨"void", "QVariant_SetKind", [receiver, ⟨"int", "kind"⟩]⟩ ∧
        ∀ b ∈ a.implementation.bodies, b.view ≠ d.view ∧ b.prototype.symbol ≠ "QVariant_SetKind" := by
  have hdeclared : (Sample.virtualTemplate.generate "QtCore").toOption.any (fun a =>
      a.header.classes.any fun h => h.declared.any fun d => d.view.direction == .plain &&
        decide (d.prototype = ⟨"void", "QVariant_SetKind", [receiver, ⟨"int", "kind"⟩]⟩) &&
        a.implementation.bodies.all fun b => b.view != d.view &&
          b.prototype.symbol != "QVariant_SetKind") = true := by
    decide +kernel
  obtain ⟨a, ha, hdeclared⟩ := any_toOption_iff.1 hdeclared
  simp only [List.any_eq_true, List.all_eq_true, Bool.and_eq_true, beq_iff_eq, bne_iff_ne,
    decide_eq_true_eq] at hdeclared
  obtain ⟨h, hh, d, hd, ⟨hdirection, hprototype⟩, hnone⟩ := hdeclared
  exact ⟨a, ha, h, hh, d, hd, hdirection, hprototype, hnone⟩

end Bindery
