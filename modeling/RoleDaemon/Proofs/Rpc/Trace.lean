import Mathlib.Data.List.Induction
import Mathlib.Data.String.Basic
import RoleDaemon.Metrics.Exposition
import RoleDaemon.Proofs.Metrics.Series

/-!
# What a Trace Tells

A trace goes through records, readings of its summary, and resets.  Its summary lists the pairs that
were recorded since the last reset, in order and each one once.  The figures of a pair are those of all
pairs with the same run-together text, so they are its own just when no other such pair was recorded.

## Architecture

- `Tells`: what a trace holds, in terms of the calls since the last reset
- `Tells.record`, `Tells.touched`: one step of a history keeps it
- `tells_runAll`: hence a whole history does

Main statements:
- `summary_tells`: the lines of a summary, and the exact condition for them to be those of their pairs
- `summary_mixesPairs`: two pairs with one text, whose calls are counted together
-/

namespace RoleDaemon.Rpc

open Metrics

/-! ## §1 The Order of the Pairs -/

theorem before_iff {a b : CallLabels} :
    a.before b ↔ a.service < b.service ∨ a.service = b.service ∧ a.method < b.method := by
  simp [CallLabels.before]

theorem before_trans {a b c : CallLabels} (hab : a.before b) (hbc : b.before c) : a.before c := by
  rw [before_iff] at *
  rcases hab with hab | ⟨hab, hab'⟩
  · rcases hbc with hbc | ⟨hbc, -⟩
    · exact .inl (hab.trans hbc)
    · exact .inl (hbc ▸ hab)
  · rcases hbc with hbc | ⟨hbc, hbc'⟩
    · exact .inl (hab ▸ hbc)
    · exact .inr ⟨hab.trans hbc, hab'.trans hbc'⟩

theorem not_before_self (a : CallLabels) : ¬ a.before a := by
  simp [before_iff]

/-- Of two different pairs one stands before the other. -/
theorem eq_of_not_before {a b : CallLabels} (hab : ¬ a.before b) (hba : ¬ b.before a) : a = b := by
  rw [before_iff, not_or] at hab hba
  have hservice : a.service = b.service := le_antisymm (not_lt.1 hba.1) (not_lt.1 hab.1)
  have hmethod : a.method = b.method := by
    apply le_antisymm
    · exact not_lt.1 fun h => hba.2 ⟨hservice.symm, h⟩
    · exact not_lt.1 fun h => hab.2 ⟨hservice, h⟩
  cases a
  cases b
  simp_all

namespace Trace

theorem mem_insertSeen {labels other : CallLabels} {seen : List CallLabels} :
    other ∈ insertSeen labels seen ↔ other = labels ∨ other ∈ seen := by
  induction seen with
  | nil => simp [insertSeen]
  | cons first rest ih =>
    unfold insertSeen
    split
    · exact List.mem_cons
    · rename_i hbefore
      split
      · simp only [List.mem_cons, ih]
        exact or_left_comm
      · -- the pair is there already
        rename_i hafter
        obtain rfl := eq_of_not_before hbefore hafter
        simp

/-- One more pair leaves the pairs in order. -/
theorem pairwise_insertSeen (labels : CallLabels) {seen : List CallLabels}
    (hseen : seen.Pairwise fun a b => a.before b) :
    (insertSeen labels seen).Pairwise fun a b => a.before b := by
  induction seen with
  | nil => exact List.pairwise_singleton _ _
  | cons first rest ih =>
    obtain ⟨hfirst, hrest⟩ := List.pairwise_cons.1 hseen
    unfold insertSeen
    split
    · rename_i hbefore
      refine List.pairwise_cons.2 ⟨fun other hother => ?_, hseen⟩
      rcases List.mem_cons.1 hother with rfl | hother
      · exact hbefore
      · exact before_trans hbefore (hfirst other hother)
    · split
      · rename_i hafter
        refine List.pairwise_cons.2 ⟨fun other hother => ?_, ih hrest⟩
        rcases mem_insertSeen.1 hother with rfl | hother
        · exact hafter
        · exact hfirst other hother
      · exact hseen

/-! ## §2 Histories -/

/-- A call as it is recorded. -/
structure Record where
  labels : CallLabels
  elapsed : Duration
  ok : Bool
  deriving DecidableEq, Repr

/-- What is done with a trace. -/
inductive Action where
  | record (call : Record)
  | summary
  | reset
  deriving DecidableEq, Repr

def Action.run : Action → Trace → Trace
  | record call, trace => trace.record call.labels call.elapsed call.ok
  | summary, trace => trace.touched
  | reset, trace => trace.reset

def runAll (actions : List Action) (trace : Trace) : Trace :=
  actions.foldl (fun trace action => action.run trace) trace

def Action.call? : Action → Option Record
  | record call => some call
  | _ => none

/-- The calls that were recorded behind the last reset, in order. -/
def sinceReset (actions : List Action) : List Record :=
  (actions.reverse.takeWhile (· ≠ .reset)).reverse.filterMap Action.call?

@[simp] theorem sinceReset_record (actions : List Action) (call : Record) :
    sinceReset (actions ++ [.record call]) = sinceReset actions ++ [call] := by
  simp [sinceReset, Action.call?]

@[simp] theorem sinceReset_summary (actions : List Action) :
    sinceReset (actions ++ [.summary]) = sinceReset actions := by
  simp [sinceReset, Action.call?]

@[simp] theorem sinceReset_reset (actions : List Action) :
    sinceReset (actions ++ [.reset]) = [] := by
  simp [sinceReset]

/-- A reset leaves nothing of what was before it. -/
theorem runAll_reset (earlier later : List Action) (trace : Trace) :
    runAll (earlier ++ .reset :: later) trace = runAll later .empty := by
  simp only [runAll, List.foldl_append, List.foldl_cons, Action.run, reset]

/-! ## §3 What a Trace Holds -/

/-- The calls of all pairs that have the run-together text of the given one. -/
def sharing (labels : CallLabels) (calls : List Record) : List Record :=
  calls.filter fun call => call.labels.key = labels.key

/-- The calls that failed. -/
def failed (calls : List Record) : List Record :=
  calls.filter fun call => !call.ok

/-- The observations of the calls, the first one first. -/
def latencyOf (calls : List Record) : Histogram :=
  calls.foldl (fun h call => h.observe call.elapsed.seconds) .empty

theorem sharing_append (labels : CallLabels) (calls : List Record) (call : Record) :
    sharing labels (calls ++ [call]) =
      if labels.key = call.labels.key then sharing labels calls ++ [call]
      else sharing labels calls := by
  rw [sharing, List.filter_append]
  split
  · rename_i hkey
    simp [sharing, hkey]
  · rename_i hkey
    simp [sharing, Ne.symm hkey]

theorem failed_append (calls : List Record) (call : Record) :
    failed (calls ++ [call]) = if call.ok then failed calls else failed calls ++ [call] := by
  rw [failed, List.filter_append]
  cases hok : call.ok <;> simp [failed, hok]

theorem count_latencyOf (calls : List Record) : (latencyOf calls).count = .ofNat calls.length := by
  induction calls using List.reverseRecOn with
  | nil => rfl
  | append_singleton calls call ih =>
    rw [latencyOf, List.foldl_append]
    change (latencyOf calls).count + 1 = _
    rw [ih, List.length_append, UInt64.ofNat_add]
    rfl

/-- The trace tells of the recorded calls: it lists their pairs in order, and holds for each pair the
    figures of all calls with its text. -/
structure Tells (recorded : List Record) (trace : Trace) : Prop where
  inOrder : trace.seen.Pairwise fun a b => a.before b
  mem_seen : ∀ labels, labels ∈ trace.seen ↔ ∃ call ∈ recorded, call.labels = labels
  calls : ∀ labels, trace.calls.value 0 labels = .ofNat (sharing labels recorded).length
  errors : ∀ labels, trace.errors.value 0 labels = .ofNat (failed (sharing labels recorded)).length
  latency : ∀ labels, trace.latency.value .empty labels = latencyOf (sharing labels recorded)

namespace Tells

variable {recorded : List Record} {trace : Trace}

theorem empty : Tells [] .empty where
  inOrder := List.Pairwise.nil
  mem_seen := by simp [Trace.empty]
  calls _ := rfl
  errors _ := rfl
  latency _ := rfl

theorem record (h : Tells recorded trace) (call : Record) :
    Tells (recorded ++ [call]) (trace.record call.labels call.elapsed call.ok) where
  inOrder := pairwise_insertSeen call.labels h.inOrder
  mem_seen labels := by
    simp only [Trace.record, mem_insertSeen, h.mem_seen, List.mem_append, List.mem_singleton]
    grind
  calls labels := by
    rw [Trace.record, Series.value_update, h.calls labels, sharing_append]
    split
    · rw [List.length_append, UInt64.ofNat_add]
      rfl
    · rfl
  errors labels := by
    -- a call counts as a failure where it failed, and only for the pairs with its text
    have hfailed : (failed (sharing labels (recorded ++ [call]))).length =
        (failed (sharing labels recorded)).length +
          if call.ok then 0 else if labels.key = call.labels.key then 1 else 0 := by
      rw [sharing_append]
      split <;> cases hok : call.ok <;> simp [failed_append, hok]
    rw [hfailed, UInt64.ofNat_add, ← h.errors labels, Trace.record]
    cases call.ok with
    | true => simp
    | false =>
      simp only [Bool.false_eq_true, if_false, Series.value_update]
      split <;> simp
  latency labels := by
    rw [Trace.record, Series.value_update, h.latency labels, sharing_append]
    split
    · rw [latencyOf, latencyOf, List.foldl_append]
      rfl
    · rfl

/-- Reading the summary files values, and changes none. -/
theorem touched (h : Tells recorded trace) : Tells recorded trace.touched where
  inOrder := h.inOrder
  mem_seen := h.mem_seen
  calls labels := by rw [Trace.touched, Series.value_foldl_touch, h.calls labels]
  errors labels := by rw [Trace.touched, Series.value_foldl_touch, h.errors labels]
  latency labels := by rw [Trace.touched, Series.value_foldl_touch, h.latency labels]

end Tells

/-- After any history the trace tells of the calls since the last reset. -/
theorem tells_runAll (actions : List Action) : Tells (sinceReset actions) (runAll actions .empty) := by
  -- induction from the end of the history, since a reset cuts off what is before it
  induction actions using List.reverseRecOn with
  | nil => exact .empty
  | append_singleton actions action ih =>
    rw [runAll, List.foldl_append]
    cases action with
    | record call =>
      rw [sinceReset_record]
      exact ih.record call
    | summary =>
      rw [sinceReset_summary]
      exact ih.touched
    | reset =>
      rw [sinceReset_reset]
      exact .empty

/-! ## §4 Summaries -/

/-- The calls of exactly the given pair. -/
def callsOf (labels : CallLabels) (calls : List Record) : List Record :=
  calls.filter fun call => call.labels = labels

/-- No other pair with the text of the given one was called. -/
def Unmixed (labels : CallLabels) (calls : List Record) : Prop :=
  ∀ call ∈ calls, call.labels.key = labels.key → call.labels = labels

theorem sharing_eq_callsOf {labels : CallLabels} {calls : List Record} (h : Unmixed labels calls) :
    sharing labels calls = callsOf labels calls := by
  apply List.filter_congr
  intro call hcall
  have hiff : call.labels.key = labels.key ↔ call.labels = labels :=
    ⟨h call hcall, fun hlabels => congrArg CallLabels.key hlabels⟩
  simp [hiff]

/-- Where another pair with the same text was called, its calls come on top. -/
theorem length_callsOf_lt {labels : CallLabels} {calls : List Record} (h : ¬ Unmixed labels calls) :
    (callsOf labels calls).length < (sharing labels calls).length := by
  simp only [Unmixed, not_forall] at h
  obtain ⟨call, hcall, hkey, hlabels⟩ := h
  -- the calls of the pair are among those with its text, and the other call is not one of them
  have hnarrow : callsOf labels calls = callsOf labels (sharing labels calls) := by
    rw [callsOf, callsOf, sharing, List.filter_filter]
    apply List.filter_congr
    intro other _
    by_cases hother : other.labels = labels
    · simp [hother]
    · simp [hother]
  rw [hnarrow]
  apply List.length_filter_lt_length_iff_exists.2
  exact ⟨call, List.mem_filter.2 ⟨hcall, by simpa using hkey⟩, by simpa using hlabels⟩

theorem Tells.line {recorded : List Record} {trace : Trace} (h : Tells recorded trace)
    {line : MethodSummary} (hline : line ∈ trace.summary) :
    line.calls = .ofNat (sharing line.labels recorded).length ∧
      line.errors = .ofNat (failed (sharing line.labels recorded)).length ∧
      line.meanMicros = (latencyOf (sharing line.labels recorded)).meanMicros := by
  obtain ⟨labels, -, rfl⟩ := List.mem_map.1 hline
  exact ⟨h.calls labels, h.errors labels, congrArg Histogram.meanMicros (h.latency labels)⟩

/-- **A summary tells of the calls since the last reset.**  After any records, readings and resets it
    lists just the pairs that were recorded since the last reset, each once and in order.  The figures of
    a line are those of the calls with the text of its pair.  They are the figures of its own pair when no
    other pair with this text was recorded, and too large in every other case.  After a reset, all
    summaries and all exports are those of a new trace. -/
theorem summary_tells (actions : List Action) (hfew : (sinceReset actions).length < 2 ^ 64) :
    let recorded := sinceReset actions
    let trace := runAll actions .empty
    (trace.summary.map (·.labels)).Pairwise (fun a b => a.before b) ∧
    (∀ labels, labels ∈ trace.summary.map (·.labels) ↔ ∃ call ∈ recorded, call.labels = labels) ∧
    (∀ line ∈ trace.summary,
      line.calls.toNat = (sharing line.labels recorded).length ∧
      line.errors.toNat = (failed (sharing line.labels recorded)).length ∧
      line.errors ≤ line.calls ∧
      (trace.latency.value .empty line.labels).count = line.calls ∧
      line.meanMicros = (latencyOf (sharing line.labels recorded)).meanMicros ∧
      (Unmixed line.labels recorded →
        line.calls.toNat = (callsOf line.labels recorded).length ∧
        line.errors.toNat = (failed (callsOf line.labels recorded)).length) ∧
      (¬ Unmixed line.labels recorded →
        (callsOf line.labels recorded).length < line.calls.toNat)) ∧
    (∀ later families,
      (runAll (actions ++ .reset :: later) .empty).summary = (runAll later .empty).summary ∧
      Registry.encode ⟨families, runAll (actions ++ .reset :: later) .empty⟩ =
        Registry.encode ⟨families, runAll later .empty⟩) := by
  intro recorded trace
  have htells : Tells recorded trace := tells_runAll actions
  have hlabels : trace.summary.map (·.labels) = trace.seen := by
    simp [summary, Function.comp_def]
  -- no number of calls comes to the end of its 64 bits
  have hfits : ∀ calls : List Record, calls.Sublist recorded →
      (UInt64.ofNat calls.length).toNat = calls.length := by
    intro calls hsub
    exact UInt64.toNat_ofNat_of_lt' (lt_of_le_of_lt hsub.length_le hfew)
  refine ⟨hlabels ▸ htells.inOrder, fun labels => hlabels ▸ htells.mem_seen labels, ?_, ?_⟩
  · intro line hline
    obtain ⟨hcalls, herrors, hmean⟩ := htells.line hline
    have hsharing : (sharing line.labels recorded).Sublist recorded := List.filter_sublist
    have hfailed : (failed (sharing line.labels recorded)).Sublist
        (sharing line.labels recorded) := List.filter_sublist
    have hcallsNat : line.calls.toNat = (sharing line.labels recorded).length := by
      rw [hcalls, hfits _ hsharing]
    have herrorsNat : line.errors.toNat = (failed (sharing line.labels recorded)).length := by
      rw [herrors, hfits _ (hfailed.trans hsharing)]
    refine ⟨hcallsNat, herrorsNat, ?_, ?_, hmean, ?_, ?_⟩
    · rw [UInt64.le_iff_toNat_le, hcallsNat, herrorsNat]
      exact hfailed.length_le
    · rw [htells.latency, count_latencyOf, hcalls]
    · intro hunmixed
      rw [hcallsNat, herrorsNat, sharing_eq_callsOf hunmixed]
      exact ⟨rfl, rfl⟩
    · intro hmixed
      rw [hcallsNat]
      exact length_callsOf_lt hmixed
  · intro later families
    rw [runAll_reset]
    exact ⟨rfl, rfl⟩

/-- The summary of a history with a reset, with failed and with successful calls of two pairs. -/
theorem summary_tells_mixed :
    let actions : List Action := [
      .record ⟨⟨"planner", "plan_request"⟩, ⟨0, 500⟩, false⟩, .reset,
      .record ⟨⟨"worker", "exec_task"⟩, ⟨0, 1000⟩, true⟩, .summary,
      .record ⟨⟨"worker", "exec_task"⟩, ⟨0, 3000⟩, false⟩]
    (sinceReset actions).length < 2 ^ 64 ∧
    ∀ line ∈ (runAll actions .empty).summary,
      line.calls.toNat = (sharing line.labels (sinceReset actions)).length ∧
        line.errors.toNat = (failed (sharing line.labels (sinceReset actions))).length := by
  intro actions
  have hfew : (sinceReset actions).length < 2 ^ 64 := by decide
  obtain ⟨-, -, hlines, -⟩ := summary_tells actions hfew
  exact ⟨hfew, fun line hline => ⟨(hlines line hline).1, (hlines line hline).2.1⟩⟩

/-- Two pairs with one text: each of them was recorded once, and both are told to have two calls. -/
theorem summary_mixesPairs :
    let actions : List Action := [
      .record ⟨⟨"ab", "c"⟩, ⟨0, 1000⟩, true⟩, .record ⟨⟨"a", "bc"⟩, ⟨0, 1000⟩, true⟩]
    (runAll actions .empty).summary.map (fun line => (line.labels, line.calls)) =
        [(⟨"a", "bc"⟩, 2), (⟨"ab", "c"⟩, 2)] ∧
      (callsOf ⟨"a", "bc"⟩ (sinceReset actions)).length = 1 ∧
      (callsOf ⟨"ab", "c"⟩ (sinceReset actions)).length = 1 := by
  decide

end Trace

end RoleDaemon.Rpc
