import Counterpart.Proofs.Issuing

/-!
Replies that are settled, cancelled and waited for in any order. Of the calls about a reply the first one that delivers a
value or cancels settles it for good. Those who wait are called when that happens, and each of them once.
-/
namespace Counterpart

variable {n number taken : Nat} {r : Reply Text}

def ReplyState.isPending : ReplyState → Bool
  | .pending => true
  | _ => false

def ReplyState.isDelivered : ReplyState → Bool
  | .delivered _ => true
  | _ => false

def ReplyState.isCancelled : ReplyState → Bool
  | .cancelled => true
  | _ => false

def ReplyState.result : ReplyState → Except Fault Value
  | .pending => .error .timeout
  | .delivered v => .ok v
  | .cancelled => .error .cancelled

namespace Session

variable {lookup : Act (Nat × Reply Text)} {w : World}

/-! ## Calls -/

inductive ReplyCall where
  | deliver (v : Value)
  | cancel
  | await (tag : Text)

namespace ReplyCall

def step (number : Nat) : ReplyCall → Step
  | .deliver v => .deliver (.integer number) (.plain v)
  | .cancel => .cancel (.integer number)
  | .await tag => .onDone (.integer number) tag

def tag? : ReplyCall → Option Text
  | .await tag => some tag
  | _ => none

def isDelivery : ReplyCall → Bool
  | .deliver _ => true
  | _ => false

/-- How calls settle a reply: the first one decides that does not wait. -/
def settled : List ReplyCall → ReplyState
  | [] => .pending
  | .deliver v :: _ => .delivered v
  | .cancel :: _ => .cancelled
  | .await _ :: rest => settled rest

theorem settled_append (calls others : List ReplyCall) :
    settled (calls ++ others) = if (settled calls).isPending then settled others else settled calls := by
  induction calls with
  | nil => rfl
  | cons call rest ih =>
    cases call with
    | await tag => exact ih
    | _ => rfl

theorem isPending_settled_iff {calls : List ReplyCall} :
    (settled calls).isPending ↔ ∀ call ∈ calls, ∃ tag, call = .await tag := by
  induction calls with
  | nil => simp [settled, ReplyState.isPending]
  | cons call rest ih =>
    cases call with
    | await tag => simp [settled, ih]
    | _ => simp [settled, ReplyState.isPending]

/-- What a call gives, whom it calls, and the reply after it. -/
def make (r : Reply Text) : ReplyCall → Answer × List Text × Reply Text
  | .deliver v => (.truth (r.deliver v).1, (r.deliver v).2)
  | .cancel => (.truth r.cancel.1, r.cancel.2)
  | .await tag => (.nothing, r.await tag)

def after (r : Reply Text) (calls : List ReplyCall) : Reply Text :=
  { r with
    state := settled calls
    waiting := if (settled calls).isPending then r.waiting ++ calls.filterMap tag? else [] }

/-- Whom calls have called that begin while a reply is pending. -/
def called (r : Reply Text) (calls : List ReplyCall) : List Text :=
  if (settled calls).isPending then [] else r.waiting ++ calls.filterMap tag?

theorem after_nil (pending : r.state = .pending) : after r [] = r := by
  obtain ⟨type, state, waiting⟩ := r
  subst pending
  simp [after, settled, ReplyState.isPending]

theorem isCancelled_after (r : Reply Text) (calls : List ReplyCall) :
    (after r calls).isCancelled = (settled calls).isCancelled := rfl

/-- One more call does to the reply what it does after the calls before it. -/
theorem make_after (r : Reply Text) (calls : List ReplyCall) (call : ReplyCall) :
    (call.make (after r calls)).2.2 = after r (calls ++ [call]) ∧
      called r calls ++ (call.make (after r calls)).2.1 = called r (calls ++ [call]) := by
  simp only [after, called, settled_append, List.filterMap_append]
  cases state : settled calls <;> cases call <;>
    simp [make, Reply.deliver, Reply.cancel, Reply.await, settled, ReplyState.isPending, tag?]

end ReplyCall

/-! ## Steps -/

theorem outcome_reply (w : World) (n : Nat) :
    (Act.reply (.integer n)).outcome w =
      if Value.isIndex n then
        match w.replies[n]? with
        | some r => (.ok (n, r), w)
        | none => (.error .noItem, w)
      else (.error .hugeIndex, w) := by
  have position : ¬ (n : Int) < 0 := by omega
  simp only [Act.reply, Act.ordinal, Value.integer?, pure_bind, Act.outcome_bind, Act.outcome_get, position, if_false,
    Int.toNat_natCast]
  generalize Value.isIndex n = named
  cases named with
  | false => rfl
  | true =>
    cases w.replies[n]? <;> rfl

theorem outcome_settle (w : World) (n : Nat) (r : Reply Text) (called : List Text) :
    (Act.settle n r called).outcome w =
      (.ok (), { w with
        replies := w.replies.set n r
        events := w.events ++ called.map fun tag => .done tag n r.isCancelled }) := by
  have noted : ∀ w : World, (called.forM fun tag => Act.note (.done tag n r.isCancelled)).outcome w =
      (.ok (), { w with events := w.events ++ called.map fun tag => .done tag n r.isCancelled }) := by
    induction called with
    | nil =>
      intro w
      simp
    | cons tag rest ih =>
      intro w
      rw [List.forM_eq_forM] at ih
      rw [List.forM_eq_forM, List.forM_cons, Act.outcome_bind, Act.note, Act.outcome_modify]
      simp [ih]
  rw [Act.settle, Act.outcome_bind, Act.outcome_modify]
  exact noted _

def Step.reply? : Step → Option Value
  | .deliver number _ | .cancel number | .replyState number | .result number | .onDone number _ => some number
  | _ => none

theorem take_of_reply? {step : Step} (about : step.reply?.isSome) (inner : Step → Act Answer) :
    take inner step = takeReplyStep step := by
  cases step <;> first | rfl | cases about

theorem ReplyCall.about (call : ReplyCall) (n : Nat) : (call.step n).reply?.isSome := by
  cases call <;> rfl

-- The lookup is a variable here: it compares the number with huge ones, which the kernel must not unfold.
theorem outcome_lookup (found : lookup.outcome w = (.ok (n, r), w)) (next : Nat × Reply Text → Act Answer) :
    (lookup >>= next).outcome w = (next (n, r)).outcome w := by
  rw [Act.outcome_bind, found]

theorem outcome_refused {e : Fault}
    (refused : lookup.outcome w = (.error e, w)) (next : Nat × Reply Text → Act Answer) :
    (lookup >>= next).outcome w = (.error e, w) := by
  rw [Act.outcome_bind, refused]

section

variable (named : Value.isIndex n) (there : w.replies[n]? = some r)

include named there

theorem outcome_reply_there : (Act.reply (.integer n)).outcome w = (.ok (n, r), w) := by
  rw [outcome_reply, if_pos named, there]

theorem outcome_call (call : ReplyCall) :
    (takeReplyStep (call.step n)).outcome w =
      (.ok (call.make r).1, { w with
        replies := w.replies.set n (call.make r).2.2
        events := w.events ++ (call.make r).2.1.map fun tag => .done tag n (call.make r).2.2.isCancelled }) := by
  have found := outcome_reply_there named there
  cases call with
  | deliver v =>
    have value : (Act.eval (.plain v)).outcome w = (.ok v, w) := rfl
    refine (outcome_lookup found _).trans ?_
    simp only [Act.outcome_bind, value, outcome_settle]
    rfl
  | cancel =>
    refine (outcome_lookup found _).trans ?_
    simp only [Act.outcome_bind, outcome_settle]
    rfl
  | await tag =>
    refine (outcome_lookup found _).trans ?_
    simp only [Act.outcome_bind, outcome_settle]
    rfl

theorem advance_call (call : ReplyCall) :
    advance w (call.step n) =
      (⟨.ok (call.make r).1, w.sent.map fun request => sentTo request.1 request.2,
        w.events ++ (call.make r).2.1.map fun tag => .done tag n (call.make r).2.2.isCancelled, w.log.map (·.message)⟩,
        { w with replies := w.replies.set n (call.make r).2.2, sent := [], events := [], log := [] }) := by
  rw [advance_eq (take_of_reply? (call.about n)), outcome_call named there call]
  rfl

theorem answer_replyState :
    (advance w (.replyState (.integer n))).1.answer =
      .ok (.list [.truth r.isDone, .truth r.isCancelled, .text r.returnType]) := by
  have taken : (takeReplyStep (.replyState (.integer n))).outcome w = _ :=
    outcome_lookup (outcome_reply_there named there) _
  rw [advance_eq (take_of_reply? rfl), taken]
  rfl

theorem answer_result :
    (advance w (.result (.integer n))).1.answer = (r.result.map .value).mapError .fault := by
  have taken : (takeReplyStep (.result (.integer n))).outcome w = _ :=
    outcome_lookup (outcome_reply_there named there) _
  rw [advance_eq (take_of_reply? rfl), taken]
  simp only [Act.outcome_bind, Act.outcome_of]
  cases r.result <;> rfl

end

theorem advance_call_missing (missing : ¬ (Value.isIndex n ∧ ∃ r, w.replies[n]? = some r)) (call : ReplyCall) :
    (advance w (call.step n)).1.events = w.events ∧ (advance w (call.step n)).2.replies = w.replies := by
  have refused : ∃ e, (Act.reply (.integer n)).outcome w = (.error e, w) := by
    rw [outcome_reply]
    split
    next named =>
      cases there : w.replies[n]? with
      | none => exact ⟨_, rfl⟩
      | some r => exact absurd ⟨named, r, there⟩ missing
    next => exact ⟨_, rfl⟩
  obtain ⟨e, refused⟩ := refused
  have taken : (takeReplyStep (call.step n)).outcome w = (.error e, w) := by
    cases call <;> exact outcome_refused refused _
  rw [advance_eq (take_of_reply? (call.about n)), taken]
  exact ⟨rfl, rfl⟩

/-! ## Runs -/

/-- The event is that someone is called who waited for the reply of a number. -/
def Event.isOf (number : Nat) : Event → Bool
  | .done _ n _ => n = number
  | _ => false

def Outcome.isYes (o : Outcome) : Bool :=
  match o.answer with
  | .ok (.truth b) => b
  | _ => false

def stepsOf (calls : List (Nat × ReplyCall)) : List Step := calls.map fun call => call.2.step call.1

def callsOf (number : Nat) (calls : List (Nat × ReplyCall)) : List ReplyCall :=
  (calls.filter (·.1 = number)).map (·.2)

def notedOf (number : Nat) (outcomes : List Outcome) : List Event :=
  (outcomes.flatMap (·.events)).filter (·.isOf number)

def takenOf (number : Nat) (calls : List (Nat × ReplyCall)) (outcomes : List Outcome) : Nat :=
  (calls.zip outcomes).countP fun made => made.1.1 = number && made.1.2.isDelivery && made.2.isYes

theorem after_append (w : World) (steps others : List Step) : w.after (steps ++ others) = (w.after steps).after others :=
  List.foldl_append

theorem length_advanceAll (w : World) (steps : List Step) : (advanceAll w steps).length = steps.length := by
  induction steps generalizing w with
  | nil => rfl
  | cons step rest ih => simp [advanceAll, ih]

theorem advanceAll_append (w : World) (steps others : List Step) :
    advanceAll w (steps ++ others) = advanceAll w steps ++ advanceAll (w.after steps) others := by
  induction steps generalizing w with
  | nil => rfl
  | cons step rest ih => simp [advanceAll, World.after, ih]

theorem notedOf_append (number : Nat) (outcomes others : List Outcome) :
    notedOf number (outcomes ++ others) = notedOf number outcomes ++ notedOf number others := by
  simp [notedOf]

theorem callsOf_append (number : Nat) (calls others : List (Nat × ReplyCall)) :
    callsOf number (calls ++ others) = callsOf number calls ++ callsOf number others := by
  simp [callsOf]

/-- What holds of the reply of a number after the calls about it, if it was pending before them: how it stands, who has
been called so far, and how many deliveries were taken. -/
structure Follows (number : Nat) (r : Reply Text) (own : List ReplyCall) (w : World) (noted : List Event)
    (taken : Nat) : Prop where
  there : w.replies[number]? = some (ReplyCall.after r own)
  clear : w.events = []
  noted : noted = (ReplyCall.called r own).map fun tag => .done tag number (ReplyCall.settled own).isCancelled
  taken : taken = if (ReplyCall.settled own).isDelivered then 1 else 0

theorem Follows.other {own : List ReplyCall} {noted : List Event} (follows : Follows number r own w noted taken)
    (different : n ≠ number) (call : ReplyCall) :
    Follows number r own (advance w (call.step n)).2 (noted ++ notedOf number [(advance w (call.step n)).1]) taken := by
  obtain ⟨there, clear, noted, taken⟩ := follows
  by_cases found : Value.isIndex n ∧ ∃ r, w.replies[n]? = some r
  · obtain ⟨named, r', there'⟩ := found
    rw [advance_call named there']
    refine ⟨by simpa [different] using there, rfl, ?_, taken⟩
    simp [noted, notedOf, clear, List.filter_map, Event.isOf, different, Function.comp_def]
  · obtain ⟨events, replies⟩ := advance_call_missing found call
    refine ⟨by rw [replies, there], ?_, by simp [noted, notedOf, events, clear], taken⟩
    rw [advance_eq (take_of_reply? (call.about n))]

theorem Follows.own (named : Value.isIndex number) {own : List ReplyCall}
    {noted : List Event} (follows : Follows number r own w noted taken) (call : ReplyCall) :
    Follows number r (own ++ [call]) (advance w (call.step number)).2
      (noted ++ notedOf number [(advance w (call.step number)).1])
      (taken + if call.isDelivery && (advance w (call.step number)).1.isYes then 1 else 0) := by
  obtain ⟨there, clear, noted, taken⟩ := follows
  obtain ⟨after, called⟩ := ReplyCall.make_after r own call
  have inside : number < w.replies.length := (List.getElem?_eq_some_iff.1 there).1
  rw [advance_call named there, after]
  refine ⟨by simp [inside], rfl, ?_, ?_⟩
  · -- Those who were called before were called because the reply is settled, so one more call does not change how.
    have same : (ReplyCall.called r own).map (fun tag => Event.done tag number (ReplyCall.settled own).isCancelled) =
        (ReplyCall.called r own).map
          fun tag => Event.done tag number (ReplyCall.settled (own ++ [call])).isCancelled := by
      rw [ReplyCall.called]
      split
      next => rfl
      next settled => rw [ReplyCall.settled_append, if_neg settled]
    rw [noted, same, ← called, List.map_append]
    simp [notedOf, clear, List.filter_map, Event.isOf, Function.comp_def, ReplyCall.isCancelled_after]
  · rw [taken, ReplyCall.settled_append]
    cases state : ReplyCall.settled own <;> cases call <;>
      simp [ReplyCall.isDelivery, Outcome.isYes, ReplyCall.make, ReplyCall.after, state, Reply.deliver,
        ReplyState.isPending, ReplyState.isDelivered, ReplyCall.settled]

theorem follows_calls (named : Value.isIndex number)
    (there : w.replies[number]? = some r) (pending : r.state = .pending) (clear : w.events = [])
    (calls : List (Nat × ReplyCall)) :
    Follows number r (callsOf number calls) (w.after (stepsOf calls)) (notedOf number (advanceAll w (stepsOf calls)))
      (takenOf number calls (advanceAll w (stepsOf calls))) := by
  induction calls using List.reverseRecOn with
  | nil => exact ⟨by rwa [callsOf, List.filter_nil, List.map_nil, ReplyCall.after_nil pending], clear, rfl, rfl⟩
  | append_singleton calls last ih =>
    obtain ⟨n, call⟩ := last
    have steps : stepsOf (calls ++ [(n, call)]) = stepsOf calls ++ [call.step n] := by simp [stepsOf]
    have sizes : calls.length = (advanceAll w (stepsOf calls)).length := by simp [length_advanceAll, stepsOf]
    rw [steps, after_append, advanceAll_append, notedOf_append, callsOf_append, takenOf, List.zip_append sizes,
      List.countP_append]
    by_cases same : n = number
    · subst same
      simpa [callsOf, advanceAll, World.after, takenOf, List.countP_cons] using ih.own named call
    · simpa [callsOf, advanceAll, World.after, takenOf, same] using ih.other same call

/-- A reply is settled at most once, by the first call that delivers a value or cancels it. Take a reply that is pending
and any calls about it and about other replies. A delivery gives yes if no call before it settled the reply, so that at
most one does, and none fails. Cancelling gives no if a value was delivered. From then on the reply is done and gives that
value or is cancelled, whatever calls follow. Each one who waits, before or after, is called once with the reply as soon
as it is settled, in the order of the calls, and nobody is called before. -/
theorem settled_once {w : World} {number : Nat} {r : Reply Text} (named : Value.isIndex number)
    (there : w.replies[number]? = some r) (pending : r.state = .pending) (clear : w.events = [])
    (calls : List (Nat × ReplyCall)) :
    let own := callsOf number calls
    let next (step : Step) := (advance (w.after (stepsOf calls)) step).1.answer
    let outcomes := advanceAll w (stepsOf calls)
    ((ReplyCall.settled own).isPending ↔ ∀ call ∈ own, ∃ tag, call = .await tag) ∧
      (∀ v, next (.deliver (.integer number) (.plain v)) = .ok (.truth (ReplyCall.settled own).isPending)) ∧
      takenOf number calls outcomes = (if (ReplyCall.settled own).isDelivered then 1 else 0) ∧
      next (.cancel (.integer number)) = .ok (.truth !(ReplyCall.settled own).isDelivered) ∧
      next (.replyState (.integer number)) = .ok (.list [.truth !(ReplyCall.settled own).isPending,
        .truth (ReplyCall.settled own).isCancelled, .text r.returnType]) ∧
      next (.result (.integer number)) = ((ReplyCall.settled own).result.map .value).mapError .fault ∧
      (¬ (ReplyCall.settled own).isPending →
        ∀ later, ReplyCall.settled (callsOf number (calls ++ later)) = ReplyCall.settled own) ∧
      notedOf number outcomes =
        (if (ReplyCall.settled own).isPending then [] else r.waiting ++ own.filterMap ReplyCall.tag?).map
          fun tag => .done tag number (ReplyCall.settled own).isCancelled := by
  intro own next outcomes
  have follows := follows_calls named there pending clear calls
  have made (call : ReplyCall) : next (call.step number) = .ok (call.make (ReplyCall.after r own)).1 := by
    simp only [next, advance_call named follows.there]
    rfl
  refine ⟨ReplyCall.isPending_settled_iff, fun v => ?_, follows.taken, ?_, ?_, ?_, fun settled later => ?_,
    follows.noted⟩
  · have taken := made (.deliver v)
    rw [ReplyCall.step] at taken
    rw [taken]
    cases state : ReplyCall.settled own <;>
      simp [ReplyCall.make, ReplyCall.after, state, Reply.deliver, ReplyState.isPending]
  · have taken := made .cancel
    rw [ReplyCall.step] at taken
    rw [taken]
    cases state : ReplyCall.settled own <;>
      simp [ReplyCall.make, ReplyCall.after, state, Reply.cancel, ReplyState.isDelivered]
  · refine (answer_replyState named follows.there).trans ?_
    cases state : ReplyCall.settled own <;>
      simp [own, ReplyCall.after, state, Reply.isDone, Reply.isCancelled, ReplyState.isPending, ReplyState.isCancelled]
  · exact answer_result named follows.there
  · rw [callsOf_append, ReplyCall.settled_append, if_neg settled]

/-- Someone waits, a value comes, another one waits, and a second value and a cancelling come too late. -/
theorem settled_once_early_and_late :
    let w : World := { replies := [{ returnType := "int" }] }
    let calls : List (Nat × ReplyCall) :=
      [(0, .await "early"), (0, .deliver (.integer 7)), (0, .await "late"), (0, .deliver (.integer 8)), (0, .cancel)]
    takenOf 0 calls (advanceAll w (stepsOf calls)) = 1 ∧
      (advance (w.after (stepsOf calls)) (.result (.integer 0))).1.answer = .ok (.value (.integer 7)) ∧
      notedOf 0 (advanceAll w (stepsOf calls)) = [.done "early" 0 false, .done "late" 0 false] := by
  intro w calls
  obtain ⟨-, -, taken, -, -, result, -, noted⟩ := @settled_once w 0 _ (by decide) rfl rfl rfl calls
  exact ⟨taken, result, noted⟩

end Session
end Counterpart
