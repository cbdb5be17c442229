import WidgetDoc.Disk.FileTree
import WidgetDoc.Proofs.Batch
import WidgetDoc.Proofs.LiveSession
import WidgetDoc.Proofs.Operations
import WidgetDoc.Proofs.QueryResults
import WidgetDoc.Proofs.ScriptRuns

/-!
# No answer is lost

A committed state shows an answer under the path of its query, unless a later query of the batch has
recorded another one above it, below it or in its place. What a query command prints follows from
this: the last answer to every query that was asked, and under the paths the same answers.
-/

namespace WidgetDoc

/-! ## Answers in the state -/

/-- In a state, every answer of a batch that no later one was recorded over stands under its path,
for reading by dot path and by binding. -/
def AnswersKept (asked : List Query) (ran : List (String × Bool)) (uiState : Json) : Prop :=
  ∀ before q after found, asked = before ++ q :: after →
    ran[before.length]? = some (q.id, found) → DotPath.segments q.target ≠ [] →
    (∀ q' ∈ after, q.Apart q') →
    DotPath.get? uiState q.target = some (.bool found) ∧
      ∀ ctx : Context, ctx.uiState = uiState →
        ctx.resolve ("uiState" :: DotPath.segments q.target) = some (.bool found)

theorem DotPath.get?_of_reach? {root x : Json} {path : String}
    (h : root.reach? (segments path) = some x) : get? root path = some x :=
  Json.descend?_of_reach? h

theorem Context.resolve_uiState (ctx : Context) (path : List String) :
    ctx.resolve ("uiState" :: path) = ctx.uiState.resolve? path := by
  have hroot : ctx.root? "uiState" = some ctx.uiState := by
    simp [Context.root?]
  rw [resolve, hroot]
  rfl

theorem Recorded.answersKept {asked : List Query} {uiState committed : Json}
    {ran : List (String × Bool)} (h : Recorded asked uiState ran committed) :
    AnswersKept asked ran committed := by
  obtain ⟨answers, rfl, rfl, rfl⟩ := h
  intro before q after found hasked hran hpath hapart
  obtain ⟨before, rest, rfl, rfl, hrest⟩ := List.map_eq_append_iff.mp hasked
  obtain ⟨⟨q, answer⟩, after, rfl, rfl, rfl⟩ := List.map_eq_cons_iff.mp hrest
  obtain rfl : answer = found := by simpa using hran
  have hreach : (Query.recordAll uiState (before ++ (q, answer) :: after)).reach?
      (DotPath.segments q.target) = some (.bool answer) :=
    Query.reach?_recordAll (fun a ha => hapart a.1 (List.mem_map_of_mem ha)) hpath uiState
  refine ⟨DotPath.get?_of_reach? hreach, fun ctx hctx => ?_⟩
  rw [Context.resolve_uiState, hctx]
  exact Json.resolve?_of_reach? hreach

theorem Surface.runQueries_recorded (s : Surface) (ids : List String) :
    (s.runQueries ids).Always fun a => a.result = .ok () →
      Recorded (requested s.document.queries ids) s.uiState a.ran a.surface.uiState := by
  cases hcomputed : s.computed with
  | error e =>
      rw [runQueries_of_fault hcomputed]
      rintro ⟨⟩
  | ok values =>
      rw [runQueries_of_computed hcomputed]
      refine (WidgetDoc.runQueries_recorded _ _ _ ids).map fun b hb hok => ?_
      obtain ⟨ran, result⟩ := b
      cases result with
      | ok committed => exact hb committed rfl
      | error e => cases hok

/-! ## Answers in the output -/

/-- The results that a query command prints beside a state: exactly the ids that were asked for and
have a query, each with its last answer, which is also what the state holds under the path of the
query if all queries record apart. -/
structure Command.ResultsShow (queries : List Query) (ids : List String)
    (ran : List (String × Bool)) (uiState : Json) (results : Fields Json) : Prop where
  sorted : (Fields.keys results).Pairwise (· < ·)
  keys : ∀ id, id ∈ Fields.keys results ↔ id ∈ ids ∧ ∃ q ∈ queries, q.id = id
  last : ∀ id, results.lookup id = (ran.reverse.lookup id).map Json.bool
  state : (∀ q ∈ requested queries ids, ∀ q' ∈ requested queries ids, q ≠ q' → q.Apart q') →
    ∀ q ∈ requested queries ids, DotPath.segments q.target ≠ [] →
      DotPath.get? uiState q.target = results.lookup q.id

theorem exists_last_answer {answers : List (Query × Bool)} {q : Query}
    (h : q ∈ answers.map (·.1)) :
    ∃ before found after, answers = before ++ (q, found) :: after ∧ ∀ a ∈ after, a.1 ≠ q := by
  induction answers with
  | nil => cases h
  | cons a answers ih =>
      by_cases hlater : q ∈ answers.map (·.1)
      · obtain ⟨before, found, after, rfl, hafter⟩ := ih hlater
        exact ⟨a :: before, found, after, rfl, hafter⟩
      · obtain rfl : q = a.1 := (List.mem_cons.mp h).resolve_right hlater
        refine ⟨[], a.2, answers, rfl, fun a' ha' heq => ?_⟩
        exact hlater (List.mem_map.mpr ⟨a', ha', heq⟩)

theorem lookup_last_answer {before after : List (Query × Bool)} {q : Query} {found : Bool}
    (h : ∀ a ∈ after, a.1.id ≠ q.id) :
    ((before ++ (q, found) :: after).map fun a => (a.1.id, a.2)).reverse.lookup q.id =
      some found := by
  have hafter : (after.map fun a => (a.1.id, a.2)).reverse.lookup q.id = none := by
    rw [List.lookup_eq_none_iff]
    intro r hr
    obtain ⟨a, ha, rfl⟩ := List.mem_map.mp (List.mem_reverse.mp hr)
    exact bne_iff_ne.mpr (h a ha).symm
  rw [List.map_append, List.map_cons, List.reverse_append, List.reverse_cons, List.append_assoc,
    List.lookup_append, hafter, Option.none_or, List.singleton_append, List.lookup_cons_self]

theorem Recorded.resultsShow {queries : List Query} {ids : List String} {uiState committed : Json}
    {ran : List (String × Bool)} (h : Recorded (requested queries ids) uiState ran committed) :
    Command.ResultsShow queries ids ran committed (Command.results ran) := by
  refine ⟨Command.sorted_results ran, fun id => ?_, Command.lookup_results ran, ?_⟩
  · rw [Command.mem_keys_results, h.ids, mem_ids_requested_iff]
  · intro hapart q hq hpath
    obtain ⟨answers, hasked, rfl, rfl⟩ := h
    -- The last run of the query is the one that is printed, and nothing is recorded over it.
    obtain ⟨before, found, after, rfl, hafter⟩ := exists_last_answer (hasked ▸ hq)
    have hmem : ∀ a ∈ after, a.1 ∈ requested queries ids := by
      intro a ha
      rw [← hasked]
      exact List.mem_map_of_mem (List.mem_append_right _ (List.mem_cons_of_mem _ ha))
    have hlast : ∀ a ∈ after, a.1.id ≠ q.id := fun a ha hid =>
      hafter a ha (eq_of_mem_requested (hmem a ha) hq hid)
    have hother : ∀ a ∈ after, q.Apart a.1 := fun a ha =>
      hapart q hq a.1 (hmem a ha) (hafter a ha).symm
    rw [Command.lookup_results, lookup_last_answer hlast]
    exact DotPath.get?_of_reach? (Query.reach?_recordAll hother hpath uiState)

/-- A query command that succeeds has attached a surface and run a batch on it that succeeded. -/
theorem Command.runFrom_query_eq_ok_iff {config : Config} {path : String} {ids : List String}
    {state : StateArguments} {disk : RememberingDisk} {final : List DiskCall} {output : Json} :
    Script.runFrom disk [] (run config (query path ids state)) = (final, .ok output) ↔
      ∃ mid s answered, Script.runFrom disk [] (attach path state) = (mid, .ok s) ∧
        ((s.runQueries ids).through (LocalProbe.answer ⟨config.root, config.maxTreeDepth⟩)).runFrom
          disk mid = (final, answered) ∧
        answered.result = .ok () ∧ output = .object [("results", .object (results answered.ran)),
          ("uiState", answered.surface.uiState)] := by
  rw [run, runQuery]
  simp only [Script.runFrom_bind_eq_ok_iff, Script.runFrom_ask_eq_ok_iff,
    Script.runFrom_orFail_eq_ok_iff, Script.runFrom_pure_eq_ok_iff]
  constructor
  · rintro ⟨mid, s, hattach, _, answered, hrun, _, _, ⟨rfl, hok⟩, rfl, rfl⟩
    exact ⟨mid, s, answered, hattach, hrun, hok, rfl⟩
  · rintro ⟨mid, s, answered, hattach, hrun, hok, rfl⟩
    exact ⟨mid, s, hattach, final, answered, hrun, final, (), ⟨rfl, hok⟩, rfl, rfl⟩

/-- In a batch that succeeds, whatever the state was and whatever the probe answers, every answer
that no later one was recorded over can be read from the committed state. What a query command
prints shows the last answers of its batch. -/
theorem answers_kept :
    (∀ (queries : List Query) (scope : QueryScope) (uiState : Json) (ids : List String)
        (probe : RememberingProbe) (committed : Json),
      let b := ((runQueries queries scope uiState ids).runFrom probe []).2
      b.result = .ok committed →
        b.ran.map (·.1) = (requested queries ids).map (·.id) ∧
          AnswersKept (requested queries ids) b.ran committed) ∧
    ∀ (config : Config) (path : String) (ids : List String) (state : StateArguments)
        (disk : RememberingDisk) (calls : List DiskCall) (output : Json),
      Script.runFrom disk [] (Command.run config (.query path ids state)) = (calls, .ok output) →
        ∃ mid s answered results,
          Script.runFrom disk [] (Command.attach path state) = (mid, .ok s) ∧
          ((s.runQueries ids).through
            (LocalProbe.answer ⟨config.root, config.maxTreeDepth⟩)).runFrom disk mid =
              (calls, answered) ∧
          output = .object [("results", .object results),
            ("uiState", answered.surface.uiState)] ∧
          Command.ResultsShow s.document.queries ids answered.ran answered.surface.uiState
            results := by
  constructor
  · intro queries scope uiState ids probe committed b hcommitted
    have hrecorded := (runQueries_recorded queries scope uiState ids).runFrom probe [] committed
      hcommitted
    exact ⟨hrecorded.ids, hrecorded.answersKept⟩
  · intro config path ids state disk calls output hrun
    obtain ⟨mid, s, answered, hattach, hanswered, hok, houtput⟩ :=
      Command.runFrom_query_eq_ok_iff.mp hrun
    refine ⟨mid, s, answered, _, hattach, hanswered, houtput, ?_⟩
    have hrecorded := ((s.runQueries_recorded ids).through
      (LocalProbe.answer ⟨config.root, config.maxTreeDepth⟩)).runFrom disk mid
    rw [hanswered] at hrecorded
    exact (hrecorded hok).resultsShow

/-- Looks for a file and records the answer under its name. -/
def lookFor (name : String) : Query :=
  ⟨name, .fileExists, .object [("path", .text name)], "found." ++ name⟩

/-- A widget that looks for its own document. -/
def lookout : Document :=
  ⟨⟨"box", [], none, []⟩, [], [], [lookFor "doc"]⟩

def lookoutTree : FileTree :=
  .dir [("doc", .file lookout.toJson.compact.toUTF8.toList)]

/-- Asks twice for the one query of the widget, and once for none. -/
def lookoutRun : List DiskCall × Except CommandError Json :=
  Script.runFrom (fun _ => lookoutTree.disk) []
    (Command.run .default (.query "doc" ["doc", "none", "doc"] ⟨none, none⟩))

/-- A probe that finds files at its first call only. -/
def firstProbe : RememberingProbe
  | [], .file path => (.ok ⟨path, ""⟩ : Except ProbeError FileContent)
  | _, .file path => (.error (.notFound path) : Except ProbeError FileContent)
  | _, .tree root _ => (.error (.notFound root) : Except ProbeError TreeNode)

theorem answers_kept_lookout :
    (∃ committed,
      ((runQueries [lookFor "doc", lookFor "log"] ⟨.empty, .empty, .empty⟩ (.array [.null])
        ["doc", "log", "none", "doc"]).runFrom firstProbe []).2.result = .ok committed ∧
      DotPath.get? committed "found.log" = some (.bool false) ∧
      DotPath.get? committed "found.doc" = some (.bool false)) ∧
    ∃ calls output, lookoutRun = (calls, .ok output) ∧
      ∃ (s : Surface) (answered : Surface.Answered) (results : Fields Json),
        output = .object [("results", .object results), ("uiState", answered.surface.uiState)] ∧
        Command.ResultsShow s.document.queries ["doc", "none", "doc"] answered.ran
          answered.surface.uiState results := by
  obtain ⟨hbatch, hcommand⟩ := answers_kept
  constructor
  · obtain ⟨-, hkept⟩ := hbatch [lookFor "doc", lookFor "log"] ⟨.empty, .empty, .empty⟩
      (.array [.null]) ["doc", "log", "none", "doc"] firstProbe _ rfl
    have hlog := hkept [lookFor "doc"] (lookFor "log") [lookFor "doc"] false rfl rfl
      (by decide +kernel) (by decide +kernel)
    have hdoc := hkept [lookFor "doc", lookFor "log"] (lookFor "doc") [] false rfl rfl
      (by decide +kernel) (by decide +kernel)
    exact ⟨_, rfl, hlog.1, hdoc.1⟩
  · have hok : lookoutRun.2.isOk = true := by decide +kernel
    cases hrun : lookoutRun with
    | mk calls result =>
        rw [hrun] at hok
        cases result with
        | error e => cases hok
        | ok output =>
            obtain ⟨-, s, answered, results, -, -, houtput, hshow⟩ :=
              hcommand _ _ _ _ _ calls output hrun
            exact ⟨calls, output, rfl, s, answered, results, houtput, hshow⟩

end WidgetDoc
