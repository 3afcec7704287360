import RoleDaemon.Proofs.Metrics.Book
import RoleDaemon.Proofs.Text.Splitting
import RoleDaemon.Proofs.Text.Trimming
import RoleDaemon.Service.Execution

/-!
# The Statements of a Request

The planner cuts a request at its semicolons, and plans one task for each piece that is not blank.  What it
plans is settled by the text of the request alone: the tasks of a request that is put together from two are
those of the two, and a request that is put together from planned tasks is planned as these tasks again.

## Architecture

- `IsStatement`: what a statement looks like, apart from the request that it was cut out of
- `RequestPart`: what stands between two semicolons, and `exists_parts`: that a request is made of such parts
- `PlanRequest.statements_append`, `PlanRequest.statements_intercalate`: statements of requests that are put
  together
- `ExecutionService.plan_cases`, `ExecutionService.plan_tells`: a request is refused, or planned and counted

Main statements:
- `ExecutionService.plan_follows_statements`: what is planned for a request, and when it is refused
-/

namespace RoleDaemon

open Metrics Text

/-! ## §1 Statements -/

/-- The text is not empty, holds no semicolon, and has no blanks at its ends. -/
structure IsStatement (text : String) : Prop where
  nonempty : text ≠ ""
  isPlain : ';' ∉ text.toList
  isTrimmed : IsTrimmed text.toList

/-- Not all of the text is blank. -/
def IsFilled (text : String) : Prop :=
  (trimChars text.toList).isEmpty = false

theorem IsStatement.isFilled {text : String} (h : IsStatement text) : IsFilled text := by
  rw [IsFilled, trimChars_of_isTrimmed h.isTrimmed, List.isEmpty_eq_false_iff]
  exact fun hnone => h.nonempty (String.toList_eq_nil_iff.1 hnone)

/-- What stands between two semicolons of a request: a statement, or nothing, and the blanks around it. -/
structure RequestPart where
  front : List Char
  body : List Char
  back : List Char
  isBlank : ∀ c ∈ front ++ back, isBlank c
  isTrimmed : IsTrimmed body
  isPlain : ';' ∉ body

def RequestPart.chars (part : RequestPart) : List Char :=
  part.front ++ part.body ++ part.back

namespace PlanRequest

/-- The characters between two semicolons are a part, whose body is what trimming leaves of them. -/
theorem exists_part {piece : List Char} (hplain : ';' ∉ piece) :
    ∃ part : RequestPart, part.chars = piece ∧ part.body = trimChars piece := by
  obtain ⟨front, back, hsplit, hblank⟩ := trimChars_split piece
  exact ⟨⟨front, trimChars piece, back, hblank, isTrimmed_trimChars piece,
    fun h => hplain (mem_of_mem_trimChars h)⟩, hsplit.symm, rfl⟩

/-- A request is made of parts with semicolons between them, and its statements are their bodies, but for
    the empty ones. -/
theorem exists_parts (request : PlanRequest) :
    ∃ parts : List RequestPart,
      request.request.toList = [';'].intercalate (parts.map RequestPart.chars) ∧
      request.statements.map String.toList = (parts.map RequestPart.body).filter (!·.isEmpty) := by
  have hplain : ∀ piece ∈ pieces ';' request.request.toList, ';' ∉ piece :=
    fun piece hpiece h => (mem_of_mem_pieces hpiece ';' h).2 rfl
  -- each piece is a part, whatever the request is
  have hparts : ∀ cut : List (List Char), (∀ piece ∈ cut, ';' ∉ piece) →
      ∃ parts : List RequestPart,
        parts.map RequestPart.chars = cut ∧ parts.map RequestPart.body = cut.map trimChars := by
    intro cut hcut
    induction cut with
    | nil => exact ⟨[], rfl, rfl⟩
    | cons piece cut ih =>
      obtain ⟨part, hchars, hbody⟩ := exists_part (hcut piece (List.mem_cons_self ..))
      obtain ⟨parts, hall, hbodies⟩ := ih fun other h => hcut other (List.mem_cons_of_mem _ h)
      exact ⟨part :: parts, by simp [hchars, hall], by simp [hbody, hbodies]⟩
  obtain ⟨parts, hchars, hbodies⟩ := hparts _ hplain
  refine ⟨parts, by rw [hchars, intercalate_pieces], ?_⟩
  rw [hbodies, statements, List.map_map]
  have hchars : String.toList ∘ String.ofList = id := by
    funext cs
    exact String.toList_ofList
  rw [hchars, List.map_id]

/-- What is cut out of a request is a statement. -/
theorem isStatement_of_mem {request : PlanRequest} {statement : String}
    (hmem : statement ∈ request.statements) : IsStatement statement := by
  obtain ⟨cs, hcs, rfl⟩ := List.mem_map.1 hmem
  obtain ⟨htrimmed, hfilled⟩ := List.mem_filter.1 hcs
  obtain ⟨piece, hpiece, rfl⟩ := List.mem_map.1 htrimmed
  constructor
  · intro hnone
    rw [← String.toList_eq_nil_iff, String.toList_ofList] at hnone
    rw [hnone] at hfilled
    cases hfilled
  · rw [String.toList_ofList]
    exact fun h => (mem_of_mem_pieces hpiece ';' (mem_of_mem_trimChars h)).2 rfl
  · rw [String.toList_ofList]
    exact isTrimmed_trimChars piece

/-- A request has statements just when it has a character that is no semicolon and not blank. -/
theorem statements_ne_nil_iff (request : PlanRequest) :
    request.statements ≠ [] ↔ ∃ c ∈ request.request.toList, c ≠ ';' ∧ ¬isBlank c := by
  constructor
  · intro hsome
    obtain ⟨statement, hmem⟩ := List.exists_mem_of_ne_nil _ hsome
    -- a statement has a character that is not blank, which is one of its piece
    obtain ⟨cs, hcs, rfl⟩ := List.mem_map.1 hmem
    obtain ⟨htrimmed, hfilled⟩ := List.mem_filter.1 hcs
    obtain ⟨piece, hpiece, rfl⟩ := List.mem_map.1 htrimmed
    have hne : trimChars piece ≠ [] := by simpa using hfilled
    rw [ne_eq, trimChars_eq_nil_iff] at hne
    push Not at hne
    obtain ⟨c, hc, hvisible⟩ := hne
    obtain ⟨hin, hother⟩ := mem_of_mem_pieces hpiece c hc
    exact ⟨c, hin, hother, hvisible⟩
  · rintro ⟨c, hc, hother, hvisible⟩
    obtain ⟨piece, hpiece, hin⟩ := exists_mem_pieces hother hc
    have hne : trimChars piece ≠ [] := by
      rw [ne_eq, trimChars_eq_nil_iff]
      exact fun hblank => hvisible (hblank c hin)
    have hmem : String.ofList (trimChars piece) ∈ request.statements := by
      refine List.mem_map_of_mem (List.mem_filter.2 ⟨List.mem_map_of_mem hpiece, ?_⟩)
      simpa using hne
    exact List.ne_nil_of_mem hmem

/-- A semicolon divides a request into two. -/
theorem statements_append (before behind : String) :
    (PlanRequest.mk (before ++ ";" ++ behind)).statements =
      (PlanRequest.mk before).statements ++ (PlanRequest.mk behind).statements := by
  have hchars : (before ++ ";" ++ behind).toList = before.toList ++ ';' :: behind.toList := by
    simp [String.toList_append]
  simp only [statements, hchars, pieces_append, List.map_append, List.filter_append]

/-- Statements that are joined by semicolons are the statements of what comes out. -/
theorem statements_intercalate {texts : List String} (h : ∀ text ∈ texts, IsStatement text) :
    (PlanRequest.mk (";".intercalate texts)).statements = texts := by
  by_cases hnone : texts = []
  · subst hnone
    rfl
  have hplain : ∀ part ∈ texts.map String.toList, ';' ∉ part := by
    intro part hpart
    obtain ⟨text, htext, rfl⟩ := List.mem_map.1 hpart
    exact (h text htext).isPlain
  have hcut : pieces ';' (";".intercalate texts).toList = texts.map String.toList := by
    rw [String.toList_intercalate]
    exact pieces_intercalate hplain (by simpa using hnone)
  -- nothing is trimmed off the pieces, and none of them is dropped
  have htrimmed : (texts.map String.toList).map trimChars = texts.map String.toList := by
    rw [List.map_map]
    exact List.map_congr_left fun text htext => trimChars_of_isTrimmed (h text htext).isTrimmed
  have hfilled : (texts.map String.toList).filter (!·.isEmpty) = texts.map String.toList := by
    rw [List.filter_eq_self]
    intro part hpart
    obtain ⟨text, htext, rfl⟩ := List.mem_map.1 hpart
    simpa using (h text htext).nonempty
  rw [statements, hcut, htrimmed, hfilled, List.map_map]
  simp [Function.comp_def]

end PlanRequest

/-! ## §2 Planning -/

namespace ExecutionService

/-- A request without statements is refused; any other one is counted, and planned as one task on this daemon
    for each of its statements. -/
theorem plan_cases (service : ExecutionService) (request : PlanRequest) (occasion : Occasion)
    (metrics : Registry) :
    (request.statements = [] ∧ ∃ cause, service.plan request occasion metrics = (.error cause, metrics)) ∨
    (request.statements ≠ [] ∧ ∃ plan : PlanResult,
      service.plan request occasion metrics = (.ok plan, metrics.increment plannedRequests 1) ∧
      plan.plannedBy = service.id ∧ plan.tasks.map (·.body) = request.statements ∧
      ∀ task ∈ plan.tasks, task.hosts = [service.id]) := by
  unfold plan
  split
  · exact .inl ⟨by assumption, _, rfl⟩
  · refine .inr ⟨by assumption, _, rfl, rfl, ?_, ?_⟩
    · apply List.ext_getElem?
      simp [Function.comp_def]
    · intro task htask
      obtain ⟨i, hi, rfl⟩ := List.mem_mapIdx.1 htask
      rfl

/-- A plan has one task for each statement, and names its daemon. -/
theorem plan_ok {execution : ExecutionService} {request : PlanRequest}
    {occasion : Occasion} {metrics : Registry} {plan : PlanResult}
    (hplan : (execution.plan request occasion metrics).1 = .ok plan) :
    plan.plannedBy = execution.id ∧ plan.tasks.map (·.body) = request.statements := by
  obtain ⟨-, cause, hrefused⟩ | ⟨-, planned, hplanned, hby, hbodies, -⟩ :=
    execution.plan_cases request occasion metrics
  · rw [hrefused] at hplan
    cases hplan
  · rw [hplanned] at hplan
    obtain rfl := Except.ok.inj hplan
    exact ⟨hby, hbodies⟩

/-- The texts of the tasks that are planned for a request; none when it is refused. -/
def plannedTexts (service : ExecutionService) (request : String) (occasion : Occasion)
    (metrics : Registry) : List String :=
  match (service.plan ⟨request⟩ occasion metrics).1 with
  | .ok plan => plan.tasks.map (·.body)
  | .error _ => []

theorem plannedTexts_eq (service : ExecutionService) (request : String) (occasion : Occasion)
    (metrics : Registry) :
    service.plannedTexts request occasion metrics = (PlanRequest.mk request).statements := by
  unfold plannedTexts
  obtain ⟨hnone, cause, hrefused⟩ | ⟨-, plan, hplan, -, hbodies, -⟩ :=
    service.plan_cases ⟨request⟩ occasion metrics
  · rw [hrefused, hnone]
  · rw [hplan, ← hbodies]

/-- A reply has the planned texts, and is counted when there are any; else nothing is changed. -/
theorem plan_tells (service : ExecutionService) (request : String) (occasion : Occasion)
    (metrics : Registry) :
    let reply := service.plan ⟨request⟩ occasion metrics
    let texts := service.plannedTexts request occasion metrics
    (reply.1.isOk ↔ texts ≠ []) ∧
    (¬reply.1.isOk → reply.2 = metrics) ∧
    (∀ count, metrics.counter? plannedRequests = some count →
      reply.2.counter? plannedRequests = some (if reply.1.isOk then count + 1 else count)) ∧
    (∀ plan, reply.1 = .ok plan →
      plan.tasks.map (·.body) = texts ∧ ∀ task ∈ plan.tasks, task.hosts = [service.id]) := by
  intro reply texts
  have htexts : texts = (PlanRequest.mk request).statements := service.plannedTexts_eq ..
  obtain ⟨hnone, cause, hrefused⟩ | ⟨hsome, planned, hplanned, -, hbodies, hhosts⟩ :=
    service.plan_cases ⟨request⟩ occasion metrics
  · have hreply : reply = (.error cause, metrics) := hrefused
    have hfailed : reply.1.isOk = false := by rw [hreply]; rfl
    refine ⟨?_, fun _ => by rw [hreply], ?_, ?_⟩
    · rw [hfailed, htexts, hnone]
      simp
    · intro count hcount
      rw [hfailed, hreply, hcount]
      rfl
    · intro plan hplan
      rw [hreply] at hplan
      cases hplan
  · have hreply : reply = (.ok planned, metrics.increment plannedRequests 1) := hplanned
    have hok : reply.1.isOk = true := by rw [hreply]; rfl
    refine ⟨?_, fun hrefused => absurd hok hrefused, ?_, ?_⟩
    · rw [hok, htexts]
      simpa using hsome
    · intro count hcount
      rw [hok, hreply, Registry.counter?_increment, if_pos rfl, hcount]
      rfl
    · intro plan hplan
      rw [hreply] at hplan
      obtain rfl := Except.ok.inj hplan
      exact ⟨hbodies.trans htexts.symm, hhosts⟩

/-- **What is planned for a request.**  At any time and in any state of the metrics:

    - a request is planned just when it has a character that is no semicolon and not blank; a refused one
      changes nothing, and the planned ones are counted one by one;
    - a plan has the planned texts as its tasks, each of which is to be run on this daemon alone;
    - the planned texts are what is left of the parts between the semicolons, in order, without the blanks
      around them and without the parts that are blank; so each of them is a statement;
    - two requests with a semicolon between them are planned as both, one after the other, and the planned
      texts joined by semicolons are planned as they are. -/
theorem plan_follows_statements (service : ExecutionService) (request : String) (occasion : Occasion)
    (metrics : Registry) :
    let reply := service.plan ⟨request⟩ occasion metrics
    let texts := service.plannedTexts request occasion metrics
    (reply.1.isOk ↔ ∃ c ∈ request.toList, c ≠ ';' ∧ ¬isBlank c) ∧
    (¬reply.1.isOk → reply.2 = metrics) ∧
    (∀ count, metrics.counter? plannedRequests = some count →
      reply.2.counter? plannedRequests = some (if reply.1.isOk then count + 1 else count)) ∧
    (∀ plan, reply.1 = .ok plan →
      plan.tasks.map (·.body) = texts ∧ ∀ task ∈ plan.tasks, task.hosts = [service.id]) ∧
    (∃ parts : List RequestPart,
      request.toList = [';'].intercalate (parts.map RequestPart.chars) ∧
      texts.map String.toList = (parts.map RequestPart.body).filter (!·.isEmpty)) ∧
    (∀ text ∈ texts, IsStatement text) ∧
    (∀ other occasion₁ metrics₁ occasion₂ metrics₂,
      service.plannedTexts (request ++ ";" ++ other) occasion₁ metrics₁ =
        texts ++ service.plannedTexts other occasion₂ metrics₂) ∧
    (∀ occasion' metrics',
      service.plannedTexts (";".intercalate texts) occasion' metrics' = texts) := by
  intro reply texts
  obtain ⟨hplanned, hrefused, hcounted, htasks⟩ := service.plan_tells request occasion metrics
  -- all else is about the statements alone
  have htexts : texts = (PlanRequest.mk request).statements := service.plannedTexts_eq ..
  have hstatements : ∀ text ∈ texts, IsStatement text := by
    rw [htexts]
    exact fun text hmem => PlanRequest.isStatement_of_mem hmem
  have hvisible : texts ≠ [] ↔ ∃ c ∈ request.toList, c ≠ ';' ∧ ¬isBlank c := by
    rw [htexts]
    exact (PlanRequest.mk request).statements_ne_nil_iff
  refine ⟨hplanned.trans hvisible, hrefused, hcounted, htasks, ?_, hstatements, ?_, ?_⟩
  · rw [htexts]
    exact (PlanRequest.mk request).exists_parts
  · intro other occasion₁ metrics₁ occasion₂ metrics₂
    rw [htexts, plannedTexts_eq, plannedTexts_eq, PlanRequest.statements_append]
  · intro occasion' metrics'
    rw [plannedTexts_eq, PlanRequest.statements_intercalate hstatements]

/-- Pieces without statements are passed over, and blanks are trimmed off that are not ASCII. -/
example : (PlanRequest.mk "a; \u3000;\u00a0b c\u2003;").statements = ["a", "b c"] := by decide

end ExecutionService

end RoleDaemon
