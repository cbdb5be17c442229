import WidgetDoc.Proofs.Checkable

/-!
# The depth limit

How deep an expression is evaluated shows in nothing but the error that it is too deep. Of a strict
expression every part is evaluated, so that it has that error exactly if its height is more than the
depth leaves room for.
-/

namespace WidgetDoc

/-! ## Evaluating higher up -/

/-- Where the first result is not that the depth limit is exceeded, the second is the same. -/
def SameUnlessTooDeep {α : Type} (r r' : Except EvalError α) : Prop :=
  r = .error .tooDeep ∨ r = r'

namespace Expr

variable {ctx : Context} {depth : Nat}

theorem sequential_sameUnlessTooDeep : Sequential fun _ => SameUnlessTooDeep where
  ok _ := .inr rfl
  bind := by
    intro α β r r' f f' h hf
    rcases h with rfl | rfl
    · exact .inl rfl
    · cases r with
      | ok a => exact hf a
      | error e => exact .inr rfl

theorem eval_of_le (e : Expr) (ctx : Context) {higher depth : Nat} (h : higher ≤ depth) :
    SameUnlessTooDeep (e.eval ctx depth) (e.eval ctx higher) := by
  -- Both depths grow by one on the way to a part, so that the hypothesis is there for all depths.
  induction e using parts_induction generalizing higher depth with
  | step e ih =>
      by_cases hdepth : maxDepth < depth
      · exact .inl (eval_of_lt e hdepth)
      · have hle : depth ≤ maxDepth := by omega
        have hle' : higher ≤ maxDepth := by omega
        refine sequential_sameUnlessTooDeep.eval hle hle' (fun _ _ => rfl) ?_ fun p hp => ?_
        · intro name args _ _
          exact .inr rfl
        · exact ih p hp (by omega)

/-! ## Errors of known operators -/

theorem sequential_onlyTooDeep :
    Sequential fun _ r _ => ∀ e, r = .error e → e = EvalError.tooDeep where
  ok _ := nofun
  bind := by
    intro α β r r' f f' h hf e he
    cases r with
    | ok a => exact hf a e he
    | error e' =>
        obtain rfl : e' = e := Except.error.inj he
        exact h e' rfl

theorem Known.eq_tooDeep {e : Expr} (known : e.Known) {err : EvalError}
    (h : e.eval ctx depth = .error err) : err = .tooDeep := by
  induction e using parts_induction generalizing depth err with
  | step e ih =>
      by_cases hdepth : maxDepth < depth
      · rw [eval_of_lt e hdepth] at h
        exact (Except.error.inj h).symm
      · refine known.eval_of_parts sequential_onlyTooDeep (by omega) ?_ err h
        intro p hp err' h'
        exact ih p hp (known.of_mem_parts hp) h'

end Expr

/-! ## Strict expressions -/

/-- The operator evaluates all of so many arguments: it does not choose among them, and none of
them is surplus. -/
def Operator.TakesAll : Operator → Nat → Prop
  | unary _, n => n ≤ 1
  | binary _, n => n ≤ 2
  | concat, _ => True
  | and, _ => False
  | or, _ => False
  | choose, _ => False

namespace Expr

/-- The expressions in which every operator is known and evaluates all the arguments it has. -/
inductive Strict : Expr → Prop where
  | null : Strict .null
  | bool (b : Bool) : Strict (.bool b)
  | number (n : Number) : Strict (.number n)
  | text (s : String) : Strict (.text s)
  | binding (b : Binding) : Strict (.binding b)
  | array {items : List Expr} (parts : ∀ e ∈ items, Strict e) : Strict (.array items)
  | object {fields : List (String × Expr)} (parts : ∀ f ∈ fields, Strict f.2) :
      Strict (.object fields)
  | operator {name : String} {args : List Expr} {op : Operator}
      (named : Operator.ofName? name = some op) (takesAll : op.TakesAll args.length)
      (parts : ∀ e ∈ args, Strict e) : Strict (.operator name args)

theorem Strict.of_mem_parts {e p : Expr} (h : e.Strict) (hp : p ∈ e.parts) : p.Strict := by
  cases h with
  | null | bool b | number n | text s | binding b => simp [Expr.parts] at hp
  | array parts => exact parts p hp
  | object parts =>
      obtain ⟨f, hf, rfl⟩ := List.mem_map.mp hp
      exact parts f hf
  | operator named takesAll parts => exact parts p hp

theorem Strict.exists_takesAll {name : String} {args : List Expr}
    (h : (Expr.operator name args).Strict) :
    ∃ op, Operator.ofName? name = some op ∧ op.TakesAll args.length := by
  cases h with
  | operator named takesAll parts => exact ⟨_, named, takesAll⟩

variable {ctx : Context} {depth : Nat}

theorem known_of_parts {e : Expr}
    (own : ∀ name args, e = operator name args → name ∈ Fields.keys Operator.table)
    (h : ∀ p ∈ e.parts, p.Known) : e.Known := by
  intro name hname
  cases e with
  | null | bool b | number n | text s | binding b => simp [operatorNames] at hname
  | array items =>
      obtain ⟨p, hp, hmem⟩ := mem_operatorNamesOfAll.mp hname
      exact h p hp name hmem
  | object fields =>
      obtain ⟨f, hf, hmem⟩ := mem_operatorNamesOfFields.mp hname
      exact h f.2 (List.mem_map_of_mem hf) name hmem
  | operator name' args =>
      rcases List.mem_cons.mp hname with rfl | hargs
      · exact own name args rfl
      · obtain ⟨p, hp, hmem⟩ := mem_operatorNamesOfAll.mp hargs
        exact h p hp name hmem

theorem Strict.known {e : Expr} (h : e.Strict) : e.Known := by
  induction e using parts_induction with
  | step e ih =>
      refine known_of_parts ?_ fun p hp => ih p hp (h.of_mem_parts hp)
      rintro name args rfl
      obtain ⟨op, hop, -⟩ := h.exists_takesAll
      exact List.mem_map_of_mem (mem_of_lookup hop)

/-- An evaluation that succeeds has evaluated all parts. -/
theorem Strict.succeeds_parts {e : Expr} (strict : e.Strict) (h : Succeeds (e.eval ctx depth)) :
    depth ≤ maxDepth ∧ ∀ p ∈ e.parts, Succeeds (p.eval ctx (depth + 1)) := by
  by_cases hdepth : maxDepth < depth
  · rw [eval_of_lt e hdepth] at h
    obtain ⟨v, hv⟩ := h
    cases hv
  refine ⟨by omega, ?_⟩
  rw [eval.eq_def, if_neg hdepth] at h
  cases e with
  | null | bool b | number n | text s | binding b => simp [parts]
  | array items =>
      rw [parts, ← firstError?_eq_none_iff, ← error?_evalItems, error?_eq_none_iff]
      exact succeeds_map_iff.mp h
  | object fields =>
      rw [parts, ← firstError?_eq_none_iff, ← error?_evalFields, error?_eq_none_iff]
      exact succeeds_map_iff.mp h
  | operator name args =>
      obtain ⟨op, hop, htakes⟩ := strict.exists_takesAll
      simp only [hop] at h
      cases op with
      | unary op =>
          refine succeeds_of_evalArg htakes fun i hi => ?_
          obtain rfl : i = 0 := by omega
          exact succeeds_map_iff.mp h
      | binary op =>
          obtain ⟨v, hfirst, hsecond⟩ := succeeds_bind_iff.mp h
          refine succeeds_of_evalArg htakes fun i hi => ?_
          obtain rfl | rfl : i = 0 ∨ i = 1 := by omega
          · exact ⟨v, hfirst⟩
          · exact succeeds_map_iff.mp hsecond
      | concat =>
          rw [parts, ← firstError?_eq_none_iff, ← error?_evalTexts, error?_eq_none_iff]
          exact succeeds_map_iff.mp h
      | and | or | choose => exact htakes.elim

theorem Strict.height_le {e : Expr} (strict : e.Strict) (h : Succeeds (e.eval ctx depth)) :
    depth + e.height ≤ maxDepth := by
  induction e using parts_induction generalizing depth with
  | step e ih =>
      obtain ⟨hdepth, hparts⟩ := strict.succeeds_parts h
      have hlow : e.height ≤ maxDepth - depth := by
        apply height_le_iff.mpr
        intro p hp
        have hheight := ih p hp (strict.of_mem_parts hp) (hparts p hp)
        omega
      omega

theorem Strict.eval_eq_tooDeep {e : Expr} (strict : e.Strict)
    (h : maxDepth < depth + e.height) : e.eval ctx depth = .error .tooDeep := by
  cases hresult : e.eval ctx depth with
  | ok v =>
      have := strict.height_le ⟨v, hresult⟩
      omega
  | error err => rw [strict.known.eq_tooDeep hresult]

/-- Any result but the error that the expression is too deep is its result at all smaller depths
too. A strict expression has a value at exactly the depths that leave room for its height, and that
error at all others. -/
theorem eval_depth_limit (e : Expr) (ctx : Context) :
    (∀ higher depth, higher ≤ depth → e.eval ctx depth ≠ .error .tooDeep →
      e.eval ctx higher = e.eval ctx depth) ∧
    (e.Strict → ∀ depth, (depth + e.height ≤ maxDepth → Succeeds (e.eval ctx depth)) ∧
      (maxDepth < depth + e.height → e.eval ctx depth = .error .tooDeep)) := by
  refine ⟨?_, ?_⟩
  · intro higher depth hle hne
    rcases e.eval_of_le ctx hle with htooDeep | heq
    · exact absurd htooDeep hne
    · exact heq.symm
  · intro strict depth
    exact ⟨succeeds_eval strict.known, strict.eval_eq_tooDeep⟩

/-- A tower of so many layers, each of an array, an object and an operator. -/
def tower : Nat → Expr
  | 0 => null
  | n + 1 => array [.text "", object [("below", operator "eq" [tower n])]]

theorem strict_tower (n : Nat) : (tower n).Strict := by
  induction n with
  | zero => exact .null
  | succ n ih =>
      have hop : Operator.ofName? "eq" = some (.binary .eq) := rfl
      have hequal : (operator "eq" [tower n]).Strict :=
        .operator hop (Nat.le_succ 1) (by simpa using ih)
      have hobject : (object [("below", operator "eq" [tower n])]).Strict :=
        .object (by simpa using hequal)
      exact .array (List.forall_mem_cons.mpr ⟨.text "", by simpa using hobject⟩)

/-- A tower of 21 layers below a negation has a value at depth 0 and none at depth 1, where its
lowest part is too deep. Below an operator that does not exist its height does not matter. -/
theorem eval_depth_limit_tower :
    let ctx : Context := ⟨.empty, .empty, .empty, .empty, none⟩
    let e := operator "not" [tower 21]
    let unknown := operator "nope" [e]
    e.Strict ∧ e.height = maxDepth ∧ Succeeds (e.eval ctx 0) ∧ e.eval ctx 1 = .error .tooDeep ∧
      unknown.eval ctx 64 = .error (.unknownOperator "nope") ∧
      unknown.eval ctx 0 = unknown.eval ctx 64 := by
  intro ctx e unknown
  have hop : Operator.ofName? "not" = some (.unary .not) := rfl
  have hstrict : e.Strict := .operator hop (Nat.le_refl 1) (by simpa using strict_tower 21)
  have hheight : e.height = maxDepth := by decide +kernel
  have hunknown : unknown.eval ctx 64 = .error (.unknownOperator "nope") := rfl
  have hresult := (eval_depth_limit e ctx).2 hstrict
  refine ⟨hstrict, hheight, (hresult 0).1 ?_, (hresult 1).2 ?_, hunknown, ?_⟩
  · rw [hheight]
    omega
  · rw [hheight]
    omega
  · refine (eval_depth_limit unknown ctx).1 0 64 (Nat.zero_le 64) ?_
    rw [hunknown]
    exact nofun

end Expr

end WidgetDoc
