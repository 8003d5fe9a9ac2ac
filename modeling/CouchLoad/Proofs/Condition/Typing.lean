import CouchLoad.Condition.Typing
import CouchLoad.Proofs.Condition.Words

/-!
# Conditions of a type

A condition that has a type comes to a value of that type, and only two things can keep it from
that: a remainder by zero, and a counter that is too large.
-/

namespace CouchLoad.Condition

/-! ### Finding the type -/

lemma HasType.type? {e : Expr} {t : ValueType} (h : HasType e t) : e.type? = some t := by
  induction h with
  | literal v => rfl
  | var r => rfl
  | unary op _ ih => exact if_pos ih
  | or _ _ ihl ihr => simp [Expr.type?, ihl, ihr, BinaryOp.type?]
  | and _ _ ihl ihr => simp [Expr.type?, ihl, ihr, BinaryOp.type?]
  | compare htakes _ _ ihl ihr => simp [Expr.type?, ihl, ihr, BinaryOp.type?, htakes]
  | mod _ _ ihl ihr => simp [Expr.type?, ihl, ihr, BinaryOp.type?]

/-- The operands of an operator have the types that it takes. -/
lemma hasType_binary {op : BinaryOp} {s s' t : ValueType} {left right : Expr}
    (h : op.type? s s' = some t) (hleft : HasType left s) (hright : HasType right s') :
    HasType (.binary op left right) t := by
  unfold BinaryOp.type? at h
  split at h
  · cases h
    exact .or hleft hright
  · cases h
    exact .and hleft hright
  · split at h
    · rename_i htakes
      obtain ⟨rfl, htakes⟩ := htakes
      cases h
      exact .compare htakes hleft hright
    · cases h
  · cases h
    exact .mod hleft hright
  · cases h

lemma hasType_of_type? {e : Expr} {t : ValueType} (h : e.type? = some t) : HasType e t := by
  induction e generalizing t with
  | literal v =>
    cases h
    exact .literal v
  | var r =>
    cases h
    exact .var r
  | unary op e ih =>
    rw [Expr.type?] at h
    split at h
    · rename_i htype
      cases h
      exact .unary op (ih htype)
    · cases h
  | binary op left right ihl ihr =>
    obtain ⟨s, hleft, h⟩ := Option.bind_eq_some_iff.1 h
    obtain ⟨s', hright, h⟩ := Option.bind_eq_some_iff.1 h
    exact hasType_binary h (ihl hleft) (ihr hright)

/-- The types that are found are the types that conditions have, so there is at most one. -/
lemma type?_eq_some_iff {e : Expr} {t : ValueType} : e.type? = some t ↔ HasType e t :=
  ⟨hasType_of_type?, HasType.type?⟩

instance (e : Expr) (t : ValueType) : Decidable (HasType e t) :=
  decidable_of_iff (e.type? = some t) type?_eq_some_iff

/-- Truth values have no order. -/
example (t : ValueType) :
    ¬HasType (.binary (.compare .lt) (.literal (.bool true)) (.literal (.bool false))) t := by
  cases t <;> decide

/-! ### Evaluation -/

/-- A result is a value of the type, or an error that can occur. -/
def Settles (can : EvalError → Prop) (t : ValueType) : Except EvalError Value → Prop
  | .ok v => v.type = t
  | .error fault => can fault

section

variable {can can' : EvalError → Prop} {s t : ValueType} {x : Except EvalError Value}

lemma Settles.mono (h : Settles can t x) (hcan : ∀ fault, can fault → can' fault) :
    Settles can' t x := by
  cases x with
  | ok v => exact h
  | error fault => exact hcan fault h

lemma Settles.bind {f : Value → Except EvalError Value} (h : Settles can s x)
    (hf : ∀ v, v.type = s → Settles can t (f v)) : Settles can t (x >>= f) := by
  cases x with
  | ok v => exact hf v h
  | error fault => exact h

lemma exists_int_of_type {v : Value} (h : v.type = .int) : ∃ n, v = .int n := by
  cases v <;> first | exact ⟨_, rfl⟩ | cases h

lemma exists_string_of_type {v : Value} (h : v.type = .string) : ∃ text, v = .string text := by
  cases v <;> first | exact ⟨_, rfl⟩ | cases h

lemma exists_bool_of_type {v : Value} (h : v.type = .bool) : ∃ b, v = .bool b := by
  cases v <;> first | exact ⟨_, rfl⟩ | cases h

lemma settles_apply {op : UnaryOp} {v : Value} (h : v.type = op.type) :
    Settles can op.type (op.apply v) := by
  cases op with
  | not =>
    obtain ⟨b, rfl⟩ := exists_bool_of_type h
    rfl
  | neg =>
    obtain ⟨n, rfl⟩ := exists_int_of_type h
    rfl

/-- Values that have an order can be compared in every way. -/
lemma apply_of_order? {how : Comparison} {a b : Value} {o : Ordering} (h : a.order? b = some o) :
    how.apply a b = .ok (.bool (how.holds o)) := by
  unfold Comparison.apply
  split
  · cases h
  · cases h
  · rw [h]

lemma settles_compare {how : Comparison} (htakes : how.Takes t) {a b : Value} (ha : a.type = t)
    (hb : b.type = t) : Settles can .bool (how.apply a b) := by
  cases t with
  | int =>
    obtain ⟨n, rfl⟩ := exists_int_of_type ha
    obtain ⟨m, rfl⟩ := exists_int_of_type hb
    rw [apply_of_order? rfl]
    rfl
  | string =>
    obtain ⟨text, rfl⟩ := exists_string_of_type ha
    obtain ⟨text', rfl⟩ := exists_string_of_type hb
    rw [apply_of_order? rfl]
    rfl
  | bool =>
    obtain ⟨x, rfl⟩ := exists_bool_of_type ha
    obtain ⟨y, rfl⟩ := exists_bool_of_type hb
    cases how with
    | eq => rfl
    | ne => rfl
    | lt | le | gt | ge => simp [Comparison.Takes] at htakes

/-- The remainder of integers is one, or cannot be taken. -/
lemma settles_mod {a b : Value} (ha : a.type = .int) (hb : b.type = .int)
    (hcan : can .moduloByZero) : Settles can .int (a.mod b) := by
  obtain ⟨n, rfl⟩ := exists_int_of_type ha
  obtain ⟨m, rfl⟩ := exists_int_of_type hb
  rw [Value.mod]
  split
  · exact hcan
  · rfl

/-- A truth value that is wanted from a condition with the type of truth values is found. -/
lemma settles_truth (h : Settles can .bool x) :
    Settles can .bool (do return .bool (← (← x).toBool)) := by
  refine h.bind fun v hv => ?_
  obtain ⟨b, rfl⟩ := exists_bool_of_type hv
  rfl

end

/-- The errors that can occur in a condition of a type. -/
inductive Expr.CanFail (ctx : Context) (e : Expr) : EvalError → Prop where
  | moduloByZero (h : e.takesRemainder) : e.CanFail ctx .moduloByZero
  | counterOutOfRange (h : e.usesCounter) (hlarge : integerLimit ≤ ctx.counter) :
      e.CanFail ctx .counterOutOfRange

lemma canFail_left {ctx : Context} (op : BinaryOp) {left : Expr} (right : Expr) {fault : EvalError}
    (h : left.CanFail ctx fault) : (Expr.binary op left right).CanFail ctx fault := by
  cases h with
  | moduloByZero h => exact .moduloByZero (by simp [Expr.takesRemainder, h])
  | counterOutOfRange h hlarge => exact .counterOutOfRange (by simp [Expr.usesCounter, h]) hlarge

lemma canFail_right {ctx : Context} (op : BinaryOp) (left : Expr) {right : Expr} {fault : EvalError}
    (h : right.CanFail ctx fault) : (Expr.binary op left right).CanFail ctx fault := by
  cases h with
  | moduloByZero h => exact .moduloByZero (by simp [Expr.takesRemainder, h])
  | counterOutOfRange h hlarge => exact .counterOutOfRange (by simp [Expr.usesCounter, h]) hlarge

lemma canFail_unary {ctx : Context} (op : UnaryOp) {e : Expr} {fault : EvalError}
    (h : e.CanFail ctx fault) : (Expr.unary op e).CanFail ctx fault := by
  cases h with
  | moduloByZero h => exact .moduloByZero h
  | counterOutOfRange h hlarge => exact .counterOutOfRange h hlarge

lemma settles_lookup (ctx : Context) (r : Reference) :
    Settles ((Expr.var r).CanFail ctx) (lookupType r) (lookup ctx r) := by
  cases r with
  | counter =>
    rw [lookup]
    split
    · rfl
    · rename_i hlarge
      exact .counterOutOfRange rfl (not_lt.1 hlarge)
  | dbPrefix => rfl
  | userPrefix => rfl

/-- A condition of a type comes to a value of that type, or fails as it can fail. -/
lemma HasType.settles {e : Expr} {t : ValueType} (h : HasType e t) (ctx : Context) :
    Settles (e.CanFail ctx) t (e.eval ctx) := by
  induction h with
  | literal v => rfl
  | var r => exact settles_lookup ctx r
  | unary op _ ih => exact (ih.mono fun _ => canFail_unary op).bind fun v hv => settles_apply hv
  | or _ _ ihl ihr =>
    refine (ihl.mono fun _ => canFail_left _ _).bind fun a ha => ?_
    obtain ⟨b, rfl⟩ := exists_bool_of_type ha
    cases b with
    | true => rfl
    | false => exact settles_truth (ihr.mono fun _ => canFail_right _ _)
  | and _ _ ihl ihr =>
    refine (ihl.mono fun _ => canFail_left _ _).bind fun a ha => ?_
    obtain ⟨b, rfl⟩ := exists_bool_of_type ha
    cases b with
    | true => exact settles_truth (ihr.mono fun _ => canFail_right _ _)
    | false => rfl
  | compare htakes _ _ ihl ihr =>
    refine (ihl.mono fun _ => canFail_left _ _).bind fun a ha => ?_
    refine (ihr.mono fun _ => canFail_right _ _).bind fun b hb => ?_
    exact settles_compare htakes ha hb
  | mod _ _ ihl ihr =>
    refine (ihl.mono fun _ => canFail_left _ _).bind fun a ha => ?_
    refine (ihr.mono fun _ => canFail_right _ _).bind fun b hb => ?_
    exact settles_mod ha hb (.moduloByZero rfl)

/-- Conditions of a type are sound. Such a condition comes to a value of its type, or it fails
because a remainder by zero is taken in it or because it uses a counter that is too large; in words
it is the same. So a condition with the type of truth values that takes no remainder has a truth
value whenever the counter fits. -/
theorem hasType_sound {e : Expr} {t : ValueType} (htype : HasType e t) (hfit : e.LiteralsFit)
    (ctx : Context) :
    ((∃ v, e.eval ctx = .ok v ∧ v.type = t) ∨
      ∃ fault, e.eval ctx = .error fault ∧
        (fault.message = "modulo by zero" ∧ e.takesRemainder ∨
          fault.message = "doc_id_counter out of range" ∧ e.usesCounter ∧
            integerLimit ≤ ctx.counter)) ∧
      (e.evalWords ctx).outcome.map WordValue.value = (e.eval ctx).mapError .eval ∧
      (t = .bool → e.takesRemainder = false → ctx.counter < integerLimit →
        ∃ b, e.eval ctx = .ok (.bool b)) := by
  have hsettles := htype.settles ctx
  refine ⟨?_, outcome_evalWords hfit ctx, ?_⟩
  · cases heval : e.eval ctx with
    | ok v =>
      rw [heval] at hsettles
      exact .inl ⟨v, rfl, hsettles⟩
    | error fault =>
      rw [heval] at hsettles
      refine .inr ⟨fault, rfl, ?_⟩
      cases hsettles with
      | moduloByZero h => exact .inl ⟨rfl, h⟩
      | counterOutOfRange h hlarge => exact .inr ⟨rfl, h, hlarge⟩
  · rintro rfl hremainder hcounter
    cases heval : e.eval ctx with
    | ok v =>
      rw [heval] at hsettles
      obtain ⟨b, rfl⟩ := exists_bool_of_type hsettles
      exact ⟨b, rfl⟩
    | error fault =>
      rw [heval] at hsettles
      cases hsettles with
      | moduloByZero h => simp [hremainder] at h
      | counterOutOfRange _ hlarge => exact absurd hcounter (not_lt.2 hlarge)

/-- The greatest counter that fits, in a condition that compares truth values. -/
theorem hasType_sound_greatest :
    let source := "(-doc_id_counter < 0) == (db_prefix != 'user') || !true".toList
    let e : Expr := .binary .or
      (.binary (.compare .eq)
        (.binary (.compare .lt) (.unary .neg (.var .counter)) (.literal (.int 0)))
        (.binary (.compare .ne) (.var .dbPrefix) (.literal (.string "user"))))
      (.unary .not (.literal (.bool true)))
    parse source = .ok e ∧ HasType e .bool ∧ e.LiteralsFit ∧
      ∃ b, e.eval ⟨9223372036854775807, "testdb", "user"⟩ = .ok (.bool b) := by
  intro source e
  have hparse : parse source = .ok e := by decide +kernel
  have htype : HasType e .bool := by decide
  have hfit : e.LiteralsFit := literalsFit_of_parse hparse
  have hsound := hasType_sound htype hfit ⟨9223372036854775807, "testdb", "user"⟩
  exact ⟨hparse, htype, hfit, hsound.2.2 rfl (by decide) (by decide)⟩

end CouchLoad.Condition
