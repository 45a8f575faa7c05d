import PathQuery.Proofs.FaultCause
import PathQuery.Proofs.UnionMembers

/-!
# Faults within slots

The slots of a slice and the members of a union are resolved one after the other, and the first that
cannot be resolved decides how the segment fails. If it is an expression that fails, its fault is
reported within the slot, whatever it is: it may come from a slot itself. However many slots are
around a fault in the end, its root cause is the same, and it has the classes that it had before and
one more.
-/

namespace PathQuery

open Outcome

/-! ## Faults in slots -/

namespace EvalFault

/-- A fault within slots that are nested in one another, the outermost first. -/
def inSlots (slots : List Slot) (cause : EvalFault) : EvalFault :=
  slots.foldr within cause

variable (slots : List Slot) (cause : EvalFault)

/-- A fault comes from another that some slots are around: it has the same root cause, which is in no
slot itself, and besides the classes of the other it has only that of a fault within a slot. -/
structure Wraps (fault cause : EvalFault) : Prop where
  rootCause_eq : fault.rootCause = cause.rootCause
  rootCause_ne (slot : Slot) (inner : EvalFault) : fault.rootCause ≠ .within slot inner
  hasClass_iff (c : FaultClass) :
    fault.hasClass c = true ↔ c = .unexpectedResult ∨ cause.hasClass c = true

theorem rootCause_ne_within (fault : EvalFault) (slot : Slot) :
    fault.rootCause ≠ .within slot cause := by
  induction fault with
  | within _ inner ih => exact ih
  | _ => intro h; cases h

theorem rootCause_inSlots : (cause.inSlots slots).rootCause = cause.rootCause := by
  induction slots with
  | nil => rfl
  | cons slot slots ih => exact ih

theorem hasClass_within_iff (c : FaultClass) (slot : Slot) :
    (within slot cause).hasClass c = true ↔ c = .unexpectedResult ∨ cause.hasClass c = true := by
  rw [hasClass, Bool.or_eq_true, decide_eq_true_eq]

theorem wraps_inSlots (hne : slots ≠ []) : (cause.inSlots slots).Wraps cause where
  rootCause_eq := rootCause_inSlots slots cause
  rootCause_ne slot inner := rootCause_ne_within inner _ slot
  hasClass_iff c := by
    induction slots with
    | nil => exact absurd rfl hne
    | cons slot slots ih =>
      show (within slot (cause.inSlots slots)).hasClass c = true ↔ _
      rw [hasClass_within_iff]
      cases slots with
      | nil => rfl
      | cons next slots => rw [ih (List.cons_ne_nil _ _), or_self_left]

end EvalFault

/-! ## Resolving slots -/

namespace Value

theorem exists_toBound_iff {v : Value} : (∃ n, Walk.toBound v = .ok n) ↔ ∃ n, v.asInt? = some n := by
  unfold Walk.toBound
  cases v.asInt? <;> simp

theorem exists_toChoice_iff {v : Value} :
    (∃ choice, v.toChoice = .ok choice) ↔ (∃ name, v = .string name) ∨ ∃ n, v.asInt? = some n := by
  cases v with
  | string name => exact iff_of_true ⟨_, rfl⟩ (.inl ⟨name, rfl⟩)
  | _ =>
    simp only [toChoice, reduceCtorEq, exists_false, false_or]
    split
    · next n hn => exact iff_of_true ⟨.index n, rfl⟩ ⟨n, hn⟩
    · next hnone =>
      refine iff_of_false ?_ ?_
      · rintro ⟨choice, h⟩
        cases h
      · rintro ⟨n, hn⟩
        rw [hnone] at hn
        cases hn

end Value

namespace Walk

variable (w : Walk) (v : Value)

/-- A slot of a slice resolves: it is empty or written out, or the value of its expression is an
integer. -/
def ResolvesBound (bound : Option Bound) : Prop :=
  ∀ expr, bound = some (.computed expr) →
    ∃ result n, w.evaluate expr v = .ok result ∧ result.asInt? = some n

/-- A member of a union resolves: it is written out, or the value of its expression is a string or an
integer. -/
def ResolvesMember (member : Member) : Prop :=
  ∀ expr, member = .computed expr → ∃ result, w.evaluate expr v = .ok result ∧
    ((∃ name, result = .string name) ∨ ∃ n, result.asInt? = some n)

/-- An expression in a slot of a segment is evaluated: a slice has looked at the kind of the value,
and everything in front of the expression has resolved. -/
inductive Reaches : Segment → Slot → Expr → Prop
  | start {size : Nat} {expr : Expr} {stop step : Option Bound} :
      v.sliceSize w.indexObjects = .ok size →
      Reaches (.range (some (.computed expr)) stop step) .rangeStart expr
  | stop {size : Nat} {expr : Expr} {start step : Option Bound} :
      v.sliceSize w.indexObjects = .ok size → w.ResolvesBound v start →
      Reaches (.range start (some (.computed expr)) step) .rangeStop expr
  | step {size : Nat} {expr : Expr} {start stop : Option Bound} :
      v.sliceSize w.indexObjects = .ok size → w.ResolvesBound v start → w.ResolvesBound v stop →
      Reaches (.range start stop (some (.computed expr))) .rangeStep expr
  | member {front back : List Member} {expr : Expr} :
      (∀ member ∈ front, w.ResolvesMember v member) →
      Reaches (.union (front ++ .computed expr :: back)) .unionMember expr

variable {w v}

theorem inSlot_eq_error_iff {α : Type} {slot : Slot} {x : Except EvalFault α} {fault : EvalFault} :
    inSlot slot x = .error fault ↔ ∃ cause, x = .error cause ∧ fault = .within slot cause := by
  cases x <;> simp [inSlot, eq_comm]

theorem inSlot_eq_ok_iff {α : Type} {slot : Slot} {x : Except EvalFault α} {a : α} :
    inSlot slot x = .ok a ↔ x = .ok a := by
  cases x <;> simp [inSlot]

theorem exists_bound_iff {slot : Slot} {bound : Option Bound} :
    (∃ n, w.bound slot v bound = .ok n) ↔ w.ResolvesBound v bound := by
  rcases bound with _ | ⟨n⟩ | ⟨expr⟩
  · refine iff_of_true ⟨none, by rw [Walk.bound]⟩ ?_
    intro expr h
    cases h
  · refine iff_of_true ⟨some n, by rw [Walk.bound]⟩ ?_
    intro expr h
    cases h
  · constructor
    · rintro ⟨n, h⟩ expr' he
      cases he
      rw [Walk.bound] at h
      obtain ⟨result, hresult, h⟩ := bind_eq_ok.1 h
      obtain ⟨k, hk, -⟩ := bind_eq_ok.1 h
      obtain ⟨n, hn⟩ := Value.exists_toBound_iff.1 ⟨k, hk⟩
      exact ⟨result, n, inSlot_eq_ok_iff.1 hresult, hn⟩
    · intro h
      obtain ⟨result, n, hresult, hn⟩ := h expr rfl
      obtain ⟨k, hk⟩ := Value.exists_toBound_iff.2 ⟨n, hn⟩
      refine ⟨some k, ?_⟩
      rw [Walk.bound]
      exact bind_eq_ok.2 ⟨result, inSlot_eq_ok_iff.2 hresult, bind_eq_ok.2 ⟨k, hk, rfl⟩⟩

theorem bound_eq_error_within_iff {slot slot' : Slot} {bound : Option Bound} {cause : EvalFault} :
    w.bound slot v bound = .error (.within slot' cause) ↔
      slot' = slot ∧ ∃ expr, bound = some (.computed expr) ∧ w.evaluate expr v = .error cause := by
  rcases bound with _ | ⟨n⟩ | ⟨expr⟩
  · simp [Walk.bound]
  · simp [Walk.bound]
  · rw [Walk.bound]
    constructor
    · intro h
      rcases bind_eq_error.1 h with h | ⟨result, -, h⟩
      · obtain ⟨cause', hcause, he⟩ := inSlot_eq_error_iff.1 h
        cases he
        exact ⟨rfl, expr, rfl, hcause⟩
      · rcases bind_eq_error.1 h with h | ⟨n, -, h⟩
        · exact (Value.toBound_isPlain result _ h).elim
        · cases h
    · rintro ⟨rfl, expr', he, hcause⟩
      cases he
      exact bind_eq_error.2 (.inl (inSlot_eq_error_iff.2 ⟨cause, hcause, rfl⟩))

theorem exists_choice_iff {member : Member} :
    (∃ choice, w.choice v member = .ok choice) ↔ w.ResolvesMember v member := by
  cases member with
  | index n =>
    refine iff_of_true ⟨.index n, rfl⟩ ?_
    intro expr h
    cases h
  | key name =>
    refine iff_of_true ⟨.key name, rfl⟩ ?_
    intro expr h
    cases h
  | computed expr =>
    constructor
    · rintro ⟨choice, h⟩ expr' he
      cases he
      obtain ⟨result, hresult, hchoice⟩ := bind_eq_ok.1 h
      exact ⟨result, inSlot_eq_ok_iff.1 hresult, Value.exists_toChoice_iff.1 ⟨choice, hchoice⟩⟩
    · intro h
      obtain ⟨result, hresult, hkind⟩ := h expr rfl
      obtain ⟨choice, hchoice⟩ := Value.exists_toChoice_iff.2 hkind
      exact ⟨choice, bind_eq_ok.2 ⟨result, inSlot_eq_ok_iff.2 hresult, hchoice⟩⟩

theorem choice_eq_error_within_iff {slot : Slot} {member : Member} {cause : EvalFault} :
    w.choice v member = .error (.within slot cause) ↔
      slot = .unionMember ∧ ∃ expr, member = .computed expr ∧ w.evaluate expr v = .error cause := by
  cases member with
  | index n => simp [choice]
  | key name => simp [choice]
  | computed expr =>
    constructor
    · intro h
      rcases bind_eq_error.1 h with h | ⟨result, -, h⟩
      · obtain ⟨cause', hcause, he⟩ := inSlot_eq_error_iff.1 h
        cases he
        exact ⟨rfl, expr, rfl, hcause⟩
      · exact (Value.toChoice_isPlain result _ h).elim
    · rintro ⟨rfl, expr', he, hcause⟩
      cases he
      exact bind_eq_error.2 (.inl (inSlot_eq_error_iff.2 ⟨cause, hcause, rfl⟩))

/-! ## The slot that fails first -/

theorem slice_eq_error_within_iff {start stop step : Option Bound} {slot : Slot} {cause : EvalFault} :
    w.slice v start stop step = .error (.within slot cause) ↔
      ∃ expr, w.Reaches v (.range start stop step) slot expr ∧ w.evaluate expr v = .error cause := by
  constructor
  · intro h
    rcases bind_eq_error.1 h with h | ⟨size, hsize, h⟩
    · exact (Value.sliceSize_isPlain _ _ _ h).elim
    rcases bind_eq_error.1 h with h | ⟨first, hfirst, h⟩
    · obtain ⟨rfl, expr, rfl, hcause⟩ := bound_eq_error_within_iff.1 h
      exact ⟨expr, .start hsize, hcause⟩
    rcases bind_eq_error.1 h with h | ⟨last, hlast, h⟩
    · obtain ⟨rfl, expr, rfl, hcause⟩ := bound_eq_error_within_iff.1 h
      exact ⟨expr, .stop hsize (exists_bound_iff.1 ⟨first, hfirst⟩), hcause⟩
    rcases bind_eq_error.1 h with h | ⟨stride, -, h⟩
    · obtain ⟨rfl, expr, rfl, hcause⟩ := bound_eq_error_within_iff.1 h
      exact ⟨expr, .step hsize (exists_bound_iff.1 ⟨first, hfirst⟩)
        (exists_bound_iff.1 ⟨last, hlast⟩), hcause⟩
    rcases bind_eq_error.1 h with h | ⟨positions, -, h⟩
    · exact (Value.positions_isPlain _ _ _ _ _ h).elim
    · cases hselect : v.select positions <;> rw [hselect] at h <;> cases h
  · rintro ⟨expr, hreach, hcause⟩
    have hfails (slot : Slot) : w.bound slot v (some (.computed expr)) = .error (.within slot cause) :=
      bound_eq_error_within_iff.2 ⟨rfl, expr, rfl, hcause⟩
    cases hreach with
    | start hsize =>
      rw [slice, hsize, hfails .rangeStart]
      rfl
    | stop hsize hstart =>
      obtain ⟨first, hfirst⟩ := exists_bound_iff.2 hstart
      rw [slice, hsize, hfails .rangeStop, hfirst]
      rfl
    | step hsize hstart hstop =>
      obtain ⟨first, hfirst⟩ := exists_bound_iff.2 hstart
      obtain ⟨last, hlast⟩ := exists_bound_iff.2 hstop
      rw [slice, hsize, hfails .rangeStep, hfirst, hlast]
      rfl

theorem choices_eq_error_within_iff {members : List Member} {slot : Slot} {cause : EvalFault} :
    w.choices v members = .error (.within slot cause) ↔
      ∃ expr, w.Reaches v (.union members) slot expr ∧ w.evaluate expr v = .error cause := by
  rw [choices_eq_mapM, mapM_eq_error]
  constructor
  · rintro ⟨front, member, back, rfl, hfront, h⟩
    obtain ⟨rfl, expr, rfl, hcause⟩ := choice_eq_error_within_iff.1 h
    exact ⟨expr, .member fun member hmem => exists_choice_iff.1 (hfront member hmem), hcause⟩
  · rintro ⟨expr, hreach, hcause⟩
    cases hreach with
    | member hfront =>
      refine ⟨_, _, _, rfl, fun member hmem => exists_choice_iff.2 (hfront member hmem), ?_⟩
      exact choice_eq_error_within_iff.2 ⟨rfl, expr, rfl, hcause⟩

/-- An expression that is evaluated in a slot and fails makes its segment fail there, whatever comes
behind the segment. -/
theorem apply_of_reaches {s : Segment} {slot : Slot} {expr : Expr} {cause : EvalFault}
    (hreach : w.Reaches v s slot expr) (hcause : w.evaluate expr v = .error cause)
    (rest : List Segment) : w.apply (s :: rest) v = .error (.within slot cause) := by
  have hfind : w.find v s = .error (.within slot cause) := by
    cases s with
    | range start stop step => exact slice_eq_error_within_iff.2 ⟨expr, hreach, hcause⟩
    | union members =>
      exact bind_eq_error.2 (.inl (choices_eq_error_within_iff.2 ⟨expr, hreach, hcause⟩))
    | _ => cases hreach
  rw [apply_cons, hfind]
  rfl

/-! ## Slots in slots -/

section Nested

variable (w)

mutual

/-- The walk of a query comes to a segment at a value and goes no further if the segment fails there. -/
inductive WalksInto (s : Segment) (u : Value) : List Segment → Value → Prop
  | here (rest : List Segment) : WalksInto s u (s :: rest) u
  | one {t : Segment} {rest : List Segment} {v x : Value} :
      w.find v t = .ok (.one x) → WalksInto s u rest x → WalksInto s u (t :: rest) v
  | collected {t next : Segment} {rest : List Segment} {v : Value} {items : List Value} :
      w.find v t = .ok (.many items) → next.isIndex = true →
      WalksInto s u (next :: rest) (.array items) → WalksInto s u (t :: next :: rest) v
  | script {expr : Expr} {rest : List Segment} {v : Value} :
      EvaluatesInto s u expr v → WalksInto s u (.script expr :: rest) v

/-- The evaluation of an expression comes to a segment at a value and has no result if the segment
fails there. -/
inductive EvaluatesInto (s : Segment) (u : Value) : Expr → Value → Prop
  | selector {anchor : Anchor} {path : List Segment} {v : Value} :
      WalksInto s u path v → EvaluatesInto s u (.selector anchor path) v
  | operand {op : Operator} {operand : Expr} {v : Value} :
      EvaluatesInto s u operand v → EvaluatesInto s u (.unary op operand) v
  | left {op : Operator} {left right : Expr} {v : Value} :
      EvaluatesInto s u left v → EvaluatesInto s u (.binary op left right) v
  | right {op : Operator} {left right : Expr} {v first : Value} :
      w.evaluate left v = .ok first → ¬(op = .and ∧ !first.isTruthy) →
      ¬(op = .or ∧ first.isTruthy) →
      EvaluatesInto s u right v → EvaluatesInto s u (.binary op left right) v

end

/-- A segment fails because of a fault in slots nested in one another, the outermost first: the
expression in a slot fails because of the fault, or because of a segment that fails in this way. -/
inductive FailsThrough (cause : EvalFault) : List Slot → Segment → Value → Prop
  | innermost {s : Segment} {v : Value} {slot : Slot} {expr : Expr} :
      w.Reaches v s slot expr → w.evaluate expr v = .error cause →
      FailsThrough cause [slot] s v
  | outer {s t : Segment} {v u : Value} {slot : Slot} {slots : List Slot} {expr : Expr} :
      w.Reaches v s slot expr → w.EvaluatesInto t u expr v → FailsThrough cause slots t u →
      FailsThrough cause (slot :: slots) s v

end Nested

mutual

theorem WalksInto.apply_eq {s : Segment} {u : Value} {fault : EvalFault}
    (hs : ∀ rest, w.apply (s :: rest) u = .error fault) {path : List Segment} {v : Value}
    (h : w.WalksInto s u path v) : w.apply path v = .error fault := by
  cases h with
  | here rest => exact hs rest
  | one hfind hrest =>
    rw [apply_cons, hfind]
    exact hrest.apply_eq hs
  | @collected t next rest _ items hfind hindex hrest =>
    rw [apply_cons, hfind]
    show w.passOn t (next :: rest) (.many items) = _
    rw [passOn, if_pos hindex]
    exact hrest.apply_eq hs
  | script hexpr =>
    rw [apply, hexpr.evaluate_eq hs]
    rfl

theorem EvaluatesInto.evaluate_eq {s : Segment} {u : Value} {fault : EvalFault}
    (hs : ∀ rest, w.apply (s :: rest) u = .error fault) {expr : Expr} {v : Value}
    (h : w.EvaluatesInto s u expr v) : w.evaluate expr v = .error fault := by
  cases h with
  | selector hpath =>
    rw [evaluate]
    exact hpath.apply_eq hs
  | operand hoperand =>
    rw [evaluate, hoperand.evaluate_eq hs]
    rfl
  | left hleft =>
    rw [evaluate, hleft.evaluate_eq hs]
    rfl
  | right hleft hand hor hright =>
    rw [evaluate, hleft]
    show (if _ then _ else if _ then _ else _) = _
    rw [if_neg hand, if_neg hor, hright.evaluate_eq hs]
    rfl

end

theorem FailsThrough.ne_nil {cause : EvalFault} {slots : List Slot} {s : Segment}
    (h : w.FailsThrough cause slots s v) : slots ≠ [] := by
  cases h <;> exact List.cons_ne_nil _ _

theorem FailsThrough.apply_eq {cause : EvalFault} {slots : List Slot} {s : Segment}
    (h : w.FailsThrough cause slots s v) (rest : List Segment) :
    w.apply (s :: rest) v = .error (cause.inSlots slots) := by
  induction h generalizing rest with
  | innermost hreach hcause => exact apply_of_reaches hreach hcause rest
  | outer hreach hinto _ ih => exact apply_of_reaches hreach (hinto.evaluate_eq ih) rest

/-- A slice or a union alone fails within a slot just when the expression in that slot is reached and
fails. -/
theorem apply_eq_error_within_iff {s : Segment} {slot : Slot} {cause : EvalFault}
    (hs : (∃ start stop step, s = .range start stop step) ∨ ∃ members, s = .union members) :
    w.apply [s] v = .error (.within slot cause) ↔
      ∃ expr, w.Reaches v s slot expr ∧ w.evaluate expr v = .error cause := by
  constructor
  · intro h
    rw [apply_cons] at h
    rcases bind_eq_error.1 h with h | ⟨found, -, h⟩
    · rcases hs with ⟨start, stop, step, rfl⟩ | ⟨members, rfl⟩
      · exact slice_eq_error_within_iff.1 h
      · rcases bind_eq_error.1 h with h | ⟨choices, -, h⟩
        · exact choices_eq_error_within_iff.1 h
        · rcases bind_eq_error.1 h with h | ⟨items, -, h⟩
          · exact (Value.choose_isPlain _ _ _ _ h).elim
          · cases h
    · cases found with
      | one x =>
        rw [passOn, apply] at h
        cases h
      | many items => cases h
  · rintro ⟨expr, hreach, hcause⟩
    exact apply_of_reaches hreach hcause []

variable (w v)

/-- The first slot of a segment that does not resolve because its expression fails makes the segment
fail within that slot, whatever is behind it, and a slice or a union alone fails within a slot in no
other case. However deep slots are nested that fail in this way, the fault is the one in the innermost
slot with all slots around it. It has the same root cause, which is in no slot, and besides the classes
of that fault only the one of a fault within a slot. -/
theorem apply_eq_error_inSlots (s : Segment) :
    (∀ slot expr cause, w.Reaches v s slot expr → w.evaluate expr v = .error cause →
      (∀ rest, w.apply (s :: rest) v = .error (.within slot cause)) ∧
        (EvalFault.within slot cause).Wraps cause) ∧
    (∀ slots cause, w.FailsThrough cause slots s v →
      (∀ rest, w.apply (s :: rest) v = .error (cause.inSlots slots)) ∧
        (cause.inSlots slots).Wraps cause) ∧
    (((∃ start stop step, s = .range start stop step) ∨ ∃ members, s = .union members) →
      ∀ slot cause, w.apply [s] v = .error (.within slot cause) ↔
        ∃ expr, w.Reaches v s slot expr ∧ w.evaluate expr v = .error cause) := by
  refine ⟨fun slot expr cause hreach hcause => ?_, fun slots cause h => ?_, fun hs slot cause => ?_⟩
  · refine ⟨apply_of_reaches hreach hcause, ?_⟩
    exact EvalFault.wraps_inSlots [slot] cause (List.cons_ne_nil _ _)
  · exact ⟨h.apply_eq, EvalFault.wraps_inSlots slots cause h.ne_nil⟩
  · exact apply_eq_error_within_iff hs

/-- A division by zero in the end of a slice, which is in a member of a union behind others that
resolve. -/
theorem apply_eq_error_inSlots_of_remainder :
    let byZero : Expr := .binary .mod (.literal (.integer 1)) (.literal (.integer 0))
    let slice : Segment := .range (some (.literal 0)) (some (.computed byZero)) none
    let inner : Expr := .unary .not (.selector .current [.key "a", slice])
    let union : Segment := .union [.key "a", .computed (.literal (.string "a")), .computed inner]
    let document : Value := .object [("a", .array [.null])]
    (start .standard .null).Reaches (.array [.null]) slice .rangeStop byZero ∧
    (start .standard .null).FailsThrough .divisionByZero [.unionMember, .rangeStop] union document ∧
    (start .standard .null).apply [union, .wildcard] document =
      .error (.within .unionMember (.within .rangeStop .divisionByZero)) ∧
    (EvalFault.divisionByZero.inSlots [.unionMember, .rangeStop]).Wraps .divisionByZero ∧
    (start .standard .null).apply [slice] (.array [.null]) =
      .error (.within .rangeStop .divisionByZero) ∧
    (EvalFault.within .rangeStop .divisionByZero).Wraps .divisionByZero := by
  intro byZero slice inner union document
  have hslice : (start .standard .null).Reaches (.array [.null]) slice .rangeStop byZero := by
    refine .stop (show Value.sliceSize false (.array [.null]) = .ok 1 from rfl) ?_
    intro expr h
    cases h
  have hfails : (start .standard .null).evaluate byZero (.array [.null]) = .error .divisionByZero := rfl
  have hunion : (start .standard .null).Reaches document union .unionMember inner := by
    refine @Reaches.member _ _ [.key "a", .computed (.literal (.string "a"))] [] inner ?_
    intro member hmem expr h
    subst h
    simp only [List.mem_cons, List.not_mem_nil, or_false, reduceCtorEq, false_or,
      Member.computed.injEq] at hmem
    subst hmem
    exact ⟨.string "a", rfl, .inl ⟨"a", rfl⟩⟩
  have hinto : (start .standard .null).EvaluatesInto slice (.array [.null]) inner document :=
    .operand (.selector (.one rfl (.here [])))
  have hthrough : (start .standard .null).FailsThrough .divisionByZero [.unionMember, .rangeStop]
      union document := .outer hunion hinto (.innermost hslice hfails)
  obtain ⟨-, hnested, -⟩ := (start .standard .null).apply_eq_error_inSlots document union
  obtain ⟨hdirect, -, honly⟩ :=
    (start .standard .null).apply_eq_error_inSlots (.array [.null]) slice
  obtain ⟨hunionFails, hwraps⟩ := hnested _ _ hthrough
  refine ⟨hslice, hthrough, hunionFails [.wildcard], hwraps, ?_, (hdirect _ _ _ hslice hfails).2⟩
  exact (honly (.inl ⟨_, _, _, rfl⟩) _ _).2 ⟨byZero, hslice, hfails⟩

end Walk

end PathQuery
