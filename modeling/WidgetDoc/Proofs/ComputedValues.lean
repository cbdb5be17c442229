import WidgetDoc.Proofs.PartsRead
import WidgetDoc.Proofs.Results

/-!
# Computed values

The entries of computed values have distinct keys, so that every value is appended to those before
it and stays. An entry therefore has the same value over the final object as over the values of the
entries before it, as long as it does not look at keys that come to be only afterwards.
-/

namespace WidgetDoc

namespace Fields

variable {α : Type}

theorem set_of_not_mem {fields : Fields α} {key : String} (value : α) (h : key ∉ keys fields) :
    set key value fields = fields ++ [(key, value)] := by
  induction fields with
  | nil => rfl
  | cons f fs ih =>
      obtain ⟨k, x⟩ := f
      simp only [keys, List.map_cons, List.mem_cons, not_or] at h
      rw [set, if_neg fun e => h.1 e.symm, ih h.2, List.cons_append]

theorem keys_append (before after : Fields α) :
    keys (before ++ after) = keys before ++ keys after :=
  List.map_append

theorem lookup_append_of_not_mem {before after : Fields α} {key : String}
    (h : key ∉ keys after) : (before ++ after).lookup key = before.lookup key := by
  rw [List.lookup_append, lookup_eq_none_iff.mpr h, Option.or_none]

/-- The fields with certain keys, cut out of a list in which they stand first. -/
theorem filter_append_of_keys {names : List String} {before after : Fields α}
    (hbefore : keys before ⊆ names) (hafter : ∀ key ∈ keys after, key ∉ names) :
    (before ++ after).filter (fun f => f.1 ∈ names) = before := by
  have hkeep : before.filter (fun f => f.1 ∈ names) = before := by
    apply List.filter_eq_self.mpr
    intro f hf
    exact decide_eq_true (hbefore (List.mem_map_of_mem hf))
  have hdrop : after.filter (fun f => f.1 ∈ names) = [] := by
    apply List.filter_eq_nil_iff.mpr
    intro f hf
    simpa using hafter f.1 (List.mem_map_of_mem hf)
  rw [List.filter_append, hkeep, hdrop, List.append_nil]

end Fields

namespace Computed

/-- What an entry sees whose predecessors have these values. -/
abbrev context (node uiState document : Json) (values : Fields Json) : Context :=
  ⟨node, .object values, uiState, document, none⟩

variable {node uiState document : Json}

theorem evalAfter_append (done : Fields Json) (before after : Computed) :
    evalAfter node uiState document done (before ++ after) =
      (evalAfter node uiState document done before).bind fun values =>
        evalAfter node uiState document values after := by
  induction before generalizing done with
  | nil => rfl
  | cons f before ih =>
      obtain ⟨key, e⟩ := f
      rw [List.cons_append, evalAfter, evalAfter]
      cases e.eval (context node uiState document done) 0 with
      | error err => rfl
      | ok v => exact ih _

theorem evalAfter_eq_error_iff {done : Fields Json} {computed : Computed} {err : EvalError} :
    evalAfter node uiState document done computed = .error err ↔
      ∃ before key e after values, computed = before ++ (key, e) :: after ∧
        evalAfter node uiState document done before = .ok values ∧
        e.eval (context node uiState document values) 0 = .error err := by
  constructor
  · intro h
    induction computed generalizing done with
    | nil => cases h
    | cons f computed ih =>
        obtain ⟨key, e⟩ := f
        rcases bind_eq_error_iff.mp h with he | ⟨v, hv, hrest⟩
        · exact ⟨[], key, e, computed, done, rfl, rfl, he⟩
        · obtain ⟨before, key', e', after, values, rfl, hbefore, he'⟩ := ih hrest
          refine ⟨(key, e) :: before, key', e', after, values, rfl, ?_, he'⟩
          exact bind_eq_ok_iff.mpr ⟨v, hv, hbefore⟩
  · rintro ⟨before, key, e, after, values, rfl, hbefore, he⟩
    rw [evalAfter_append, hbefore]
    exact bind_eq_error_iff.mpr (.inr ⟨values, rfl, bind_eq_error_iff.mpr (.inl he)⟩)

/-- The field that an entry adds, unless its value is undefined. -/
def added (key : String) (v : Value) : Fields Json :=
  (v.map fun x => (key, x)).toList

theorem keys_added_sublist (key : String) (v : Value) :
    (Fields.keys (added key v)).Sublist [key] := by
  cases v with
  | none => exact List.nil_sublist [key]
  | some x => exact .refl [key]

theorem lookup_added (key : String) (v : Value) : (added key v).lookup key = v := by
  cases v with
  | none => rfl
  | some x => exact List.lookup_cons_self

theorem evalAfter_cons_eq_ok_iff {done values : Fields Json} {key : String} {e : Expr}
    {rest : Computed} (hnew : key ∉ Fields.keys done) :
    evalAfter node uiState document done ((key, e) :: rest) = .ok values ↔
      ∃ v, e.eval (context node uiState document done) 0 = .ok v ∧
        evalAfter node uiState document (done ++ added key v) rest = .ok values := by
  rw [evalAfter, bind_eq_ok_iff]
  refine exists_congr fun v => and_congr_right' ?_
  cases v with
  | none => simp [added]
  | some x => simp [added, Fields.set_of_not_mem x hnew]

/-- The values of entries with new keys are appended to those that are there. -/
theorem exists_later_of_evalAfter {done values : Fields Json} {computed : Computed}
    (distinct : (Fields.keys done ++ Fields.keys computed).Nodup)
    (h : evalAfter node uiState document done computed = .ok values) :
    ∃ later, values = done ++ later ∧ (Fields.keys later).Sublist (Fields.keys computed) := by
  -- The key of the first entry moves from the keys to come to those that are there, or goes away.
  -- Either way the two stay distinct.
  induction computed generalizing done with
  | nil => exact ⟨[], by simpa using (Except.ok.inj h).symm, .refl _⟩
  | cons f computed ih =>
      obtain ⟨key, e⟩ := f
      have hnew : key ∉ Fields.keys done := fun hmem =>
        (List.nodup_append.mp distinct).2.2 key hmem key List.mem_cons_self rfl
      obtain ⟨v, -, hrest⟩ := (evalAfter_cons_eq_ok_iff hnew).mp h
      have hkeys : (Fields.keys (done ++ added key v) ++ Fields.keys computed).Nodup := by
        rw [Fields.keys_append, List.append_assoc]
        exact distinct.sublist (((keys_added_sublist key v).append_right _).append_left _)
      obtain ⟨later, rfl, hlater⟩ := ih hkeys hrest
      refine ⟨added key v ++ later, List.append_assoc .., ?_⟩
      rw [Fields.keys_append]
      exact (keys_added_sublist key v).append hlater

/-! ## Taking entries apart -/

/-- The values of the first entries are the first of all values. -/
theorem eval_append_eq_ok {before after : Computed} {values : Fields Json}
    (distinct : Fields.Distinct (before ++ after))
    (h : evalAfter node uiState document [] (before ++ after) = .ok values) :
    ∃ earlier later, evalAfter node uiState document [] before = .ok earlier ∧
      evalAfter node uiState document earlier after = .ok values ∧ values = earlier ++ later ∧
      (Fields.keys earlier).Sublist (Fields.keys before) ∧
      (Fields.keys later).Sublist (Fields.keys after) := by
  rw [Fields.Distinct, Fields.keys_append] at distinct
  rw [evalAfter_append, bind_eq_ok_iff] at h
  obtain ⟨earlier, hbefore, hafter⟩ := h
  have hfirst : (Fields.keys ([] : Fields Json) ++ Fields.keys before).Nodup :=
    (List.nodup_append.mp distinct).1
  obtain ⟨_, rfl, hearlier⟩ := exists_later_of_evalAfter hfirst hbefore
  obtain ⟨later, rfl, hlater⟩ :=
    exists_later_of_evalAfter (distinct.sublist (hearlier.append_right _)) hafter
  exact ⟨_, later, hbefore, hafter, rfl, hearlier, hlater⟩

/-- The values of the first entries are those of all entries under their keys. -/
theorem evalAfter_prefix {before after : Computed} {values : Fields Json}
    (distinct : Fields.Distinct (before ++ after))
    (h : evalAfter node uiState document [] (before ++ after) = .ok values) :
    evalAfter node uiState document [] before =
      .ok (values.filter fun f => f.1 ∈ Fields.keys before) := by
  obtain ⟨earlier, later, hbefore, -, rfl, hearlier, hlater⟩ := eval_append_eq_ok distinct h
  rw [Fields.Distinct, Fields.keys_append] at distinct
  have hapart : ∀ key ∈ Fields.keys later, key ∉ Fields.keys before := fun key hkey hmem =>
    (List.nodup_append.mp distinct).2.2 key hmem key (hlater.subset hkey) rfl
  rw [hbefore, Fields.filter_append_of_keys hearlier.subset hapart]

/-- An entry has the value that is found under its key. -/
theorem eval_entry {before after : Computed} {key : String} {e : Expr} {values : Fields Json}
    (distinct : Fields.Distinct (before ++ (key, e) :: after))
    (h : evalAfter node uiState document [] (before ++ (key, e) :: after) = .ok values) :
    ∃ earlier later, values = earlier ++ later ∧
      evalAfter node uiState document [] before = .ok earlier ∧
      (Fields.keys later).Sublist (Fields.keys ((key, e) :: after)) ∧
      e.eval (context node uiState document earlier) 0 = .ok (values.lookup key) := by
  obtain ⟨earlier, later, hbefore, hentry, rfl, hearlier, hlater⟩ := eval_append_eq_ok distinct h
  refine ⟨earlier, later, rfl, hbefore, hlater, ?_⟩
  rw [Fields.Distinct, Fields.keys_append] at distinct
  obtain ⟨-, htail, hapart⟩ := List.nodup_append.mp distinct
  -- The key is neither in the values before the entry nor in those that come after its own.
  have hnew : key ∉ Fields.keys earlier := fun hmem =>
    hapart key (hearlier.subset hmem) key List.mem_cons_self rfl
  obtain ⟨v, hv, hrest⟩ := (evalAfter_cons_eq_ok_iff hnew).mp hentry
  have hkeys : (Fields.keys (earlier ++ added key v) ++ Fields.keys after).Nodup := by
    rw [Fields.keys_append, List.append_assoc]
    exact distinct.sublist (hearlier.append ((keys_added_sublist key v).append_right _))
  obtain ⟨rest, hvalues, hsublist⟩ := exists_later_of_evalAfter hkeys hrest
  have hafter : key ∉ Fields.keys rest := fun hmem =>
    (List.nodup_cons.mp htail).1 (hsublist.subset hmem)
  rw [hv, hvalues, Fields.lookup_append_of_not_mem hafter, List.lookup_append,
    Fields.lookup_eq_none_iff.mpr hnew, Option.none_or, lookup_added]

end Computed

/-! ## Over the final values -/

/-- Whatever the expression reads of computed values lies below fields with other keys. -/
def Expr.AvoidsComputed (names : List String) (e : Expr) : Prop :=
  ∀ b ∈ e.bindings, ∀ rest, b.path = "computed" :: rest →
    ∃ segment more, rest = segment :: more ∧ segment ∉ names

namespace Computed

variable {node uiState document : Json}

theorem resolve_append {earlier later : Fields Json} {path : List String}
    (h : ∀ rest, path = "computed" :: rest →
      ∃ segment more, rest = segment :: more ∧ segment ∉ Fields.keys later) :
    (context node uiState document (earlier ++ later)).resolve path =
      (context node uiState document earlier).resolve path := by
  cases path with
  | nil => rfl
  | cons name rest =>
      by_cases hname : name = "computed"
      · subst hname
        obtain ⟨segment, more, rfl, hsegment⟩ := h rest rfl
        simp only [Context.resolve, Context.root?, String.reduceEq, if_false, if_true,
          Option.bind_some, Json.resolve?_object_cons,
          Fields.lookup_append_of_not_mem hsegment]
      · simp only [Context.resolve, Context.root?, hname, if_false]

theorem eval_append_of_avoids {e : Expr} {names : List String} (h : e.AvoidsComputed names)
    {earlier later : Fields Json} (hlater : Fields.keys later ⊆ names) :
    e.eval (context node uiState document (earlier ++ later)) 0 =
      e.eval (context node uiState document earlier) 0 := by
  refine Expr.eval_congr (fun b hb => resolve_append fun rest hpath => ?_) 0
  obtain ⟨segment, more, hrest, hsegment⟩ := h b hb rest hpath
  exact ⟨segment, more, hrest, fun hmem => hsegment (hlater hmem)⟩

theorem eval_eq_ok_iff {computed : Computed} {result : Json} :
    computed.eval node uiState document = .ok result ↔
      ∃ values, evalAfter node uiState document [] computed = .ok values ∧
        .object values = result :=
  map_eq_ok_iff

/-- Computed values fail as the first entry that does, each entry being evaluated over the result
for the entries before it. Otherwise their keys are keys of entries in the same order, the values
of the first entries are cut out by their keys, every entry has the value under its key, or none if
that is missing, and it has it also over the final values if it reads none that come to be with it
or after it. -/
theorem eval_consistent (computed : Computed) (distinct : Fields.Distinct computed)
    (node uiState document : Json) :
    (∀ err, computed.eval node uiState document = .error err ↔
      ∃ before key e after values, computed = before ++ (key, e) :: after ∧
        eval before node uiState document = .ok values ∧
        e.eval ⟨node, values, uiState, document, none⟩ 0 = .error err) ∧
    ∀ result, computed.eval node uiState document = .ok result →
      ∃ values, result = .object values ∧
        (Fields.keys values).Sublist (Fields.keys computed) ∧
        (∀ before after, computed = before ++ after → eval before node uiState document =
          .ok (.object (values.filter fun f => f.1 ∈ Fields.keys before))) ∧
        ∀ before key e after, computed = before ++ (key, e) :: after →
          (∃ earlier, eval before node uiState document = .ok earlier ∧
            e.eval ⟨node, earlier, uiState, document, none⟩ 0 = .ok (values.lookup key)) ∧
          (e.AvoidsComputed (Fields.keys ((key, e) :: after)) →
            e.eval ⟨node, .object values, uiState, document, none⟩ 0 =
              .ok (values.lookup key)) := by
  refine ⟨fun err => ?_, fun result hresult => ?_⟩
  · rw [eval, map_eq_error_iff, evalAfter_eq_error_iff]
    constructor
    · rintro ⟨before, key, e, after, values, hsplit, hbefore, he⟩
      exact ⟨before, key, e, after, _, hsplit, eval_eq_ok_iff.mpr ⟨values, hbefore, rfl⟩, he⟩
    · rintro ⟨before, key, e, after, _, hsplit, hbefore, he⟩
      obtain ⟨values, hvalues, rfl⟩ := eval_eq_ok_iff.mp hbefore
      exact ⟨before, key, e, after, values, hsplit, hvalues, he⟩
  · obtain ⟨values, hvalues, rfl⟩ := eval_eq_ok_iff.mp hresult
    refine ⟨values, rfl, ?_, ?_, ?_⟩
    · have hall : (Fields.keys ([] : Fields Json) ++ Fields.keys computed).Nodup := distinct
      obtain ⟨_, rfl, hkeys⟩ := exists_later_of_evalAfter hall hvalues
      exact hkeys
    · rintro before after rfl
      exact eval_eq_ok_iff.mpr ⟨_, evalAfter_prefix distinct hvalues, rfl⟩
    · rintro before key e after rfl
      obtain ⟨earlier, later, rfl, hbefore, hlater, he⟩ := eval_entry distinct hvalues
      refine ⟨⟨_, eval_eq_ok_iff.mpr ⟨earlier, hbefore, rfl⟩, he⟩, fun havoids => ?_⟩
      exact (eval_append_of_avoids havoids hlater.subset).trans he

/-- An entry that compares two entries before it, of which the second is undefined. -/
def comparing : Expr :=
  .operator "eq" [.binding ⟨"$\x7bcomputed.name\x7d", ["computed", "name"], none⟩,
    .binding ⟨"$\x7bcomputed.gone\x7d", ["computed", "gone"], none⟩]

def greeted : Computed :=
  [("name", .text "Ada"),
    ("gone", .binding ⟨"$\x7bnode.missing\x7d", ["node", "missing"], none⟩),
    ("nameless", comparing)]

/-- The comparison has its value over the final object too. With an operator that does not exist
after them, all entries fail. -/
theorem eval_consistent_greeted :
    let result := Json.object [("name", .string "Ada"), ("nameless", .bool false)]
    let failing := greeted ++ [("bad", Expr.operator "nope" [])]
    Fields.Distinct greeted ∧ greeted.eval .empty .empty .empty = .ok result ∧
      comparing.AvoidsComputed ["nameless"] ∧
      comparing.eval ⟨.empty, result, .empty, .empty, none⟩ 0 = .ok (some (.bool false)) ∧
      Fields.Distinct failing ∧
      failing.eval .empty .empty .empty = .error (.unknownOperator "nope") := by
  intro result failing
  have hdistinct : Fields.Distinct greeted := by decide
  have hresult : greeted.eval .empty .empty .empty = .ok result := rfl
  have havoids : comparing.AvoidsComputed ["nameless"] := by
    intro b hb rest hpath
    simp only [comparing, Expr.bindings, Expr.bindingsOfAll, List.mem_append, List.mem_singleton,
      List.not_mem_nil, or_false] at hb
    rcases hb with rfl | rfl
    · exact ⟨"name", [], (List.cons.inj hpath).2.symm, by decide⟩
    · exact ⟨"gone", [], (List.cons.inj hpath).2.symm, by decide⟩
  obtain ⟨values, hvalues, -, -, hentries⟩ :=
    (eval_consistent greeted hdistinct .empty .empty .empty).2 result hresult
  obtain rfl : [("name", .string "Ada"), ("nameless", .bool false)] = values :=
    Json.object.inj hvalues
  have hfinal := (hentries (greeted.take 2) "nameless" comparing [] rfl).2 havoids
  have hfailing : Fields.Distinct failing := by decide
  refine ⟨hdistinct, hresult, havoids, hfinal, hfailing, ?_⟩
  exact ((eval_consistent failing hfailing .empty .empty .empty).1 _).mpr
    ⟨greeted, "bad", .operator "nope" [], [], result, rfl, hresult, rfl⟩

end Computed

end WidgetDoc
