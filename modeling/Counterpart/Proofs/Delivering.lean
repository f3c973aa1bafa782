import Counterpart.Proofs.Members
import Counterpart.Session.Run

/-!
Receivers that are connected to the signals of objects, taken away and called in any order, also by receivers while they
are called. What a session tells is known from the history of the connections alone: a receiver is called once for each
of its connections that remain, and a receiver that fails keeps those after it from being called.
-/
namespace Counterpart.Session

/-! ## Histories -/

def World.hasSignal (w : World) (id name : Text) : Bool :=
  match (Keyed.get? id w.objects).bind fun o => o.lineage.lookup? name with
  | some (_, .signal _) => true
  | _ => false

structure World.Signal (w : World) where
  id : Text
  name : Text
  there : w.hasSignal id name
  deriving DecidableEq

/-- What connects a receiver or takes it away, with what the receiver does when it is called. -/
inductive Wiring (w : World) where
  | connect (s : w.Signal) (tag : Text) (reaction : List (Wiring w))
  | disconnect (s : w.Signal) (tag : Text) (reaction : List (Wiring w))

variable {w : World}

namespace Wiring

def signal : Wiring w → w.Signal
  | .connect s _ _ | .disconnect s _ _ => s

def tag : Wiring w → Text
  | .connect _ tag _ | .disconnect _ tag _ => tag

def reaction : Wiring w → List (Wiring w)
  | .connect _ _ reaction | .disconnect _ _ reaction => reaction

mutual
def step : Wiring w → Step
  | .connect s tag reaction => .connect s.id s.name tag (steps reaction)
  | .disconnect s tag reaction => .disconnect s.id s.name tag (steps reaction)

def steps : List (Wiring w) → List Step
  | [] => []
  | x :: rest => x.step :: steps rest
end

/-- The receivers of a signal as they change: a new connection is the last, and the earliest one of a receiver goes. -/
def change (s : w.Signal) (receivers : List Text) : Wiring w → List Text
  | .connect s' tag _ => if s' = s then receivers ++ [tag] else receivers
  | .disconnect s' tag _ => if s' = s then receivers.eraseP (tag = ·) else receivers

/-- The receivers of a signal that remain after a history of connections. -/
def remaining (s : w.Signal) (history : List (Wiring w)) : List Text := history.foldl (change s) []

/-- A receiver cannot be taken away that is not connected. -/
def isRefused (history : List (Wiring w)) : Wiring w → Bool
  | .connect .. => false
  | .disconnect s tag _ => !(remaining s history).contains tag

theorem remaining_of_notMem {s : w.Signal} {tag : Text} {history : List (Wiring w)} (absent : tag ∉ remaining s history)
    (reaction : List (Wiring w)) (s' : w.Signal) :
    remaining s' (history ++ [.disconnect s tag reaction]) = remaining s' history := by
  by_cases same : s = s'
  · subst same
    have others : ∀ t ∈ remaining s history, ¬ decide (tag = t) := by
      rintro t among isTag
      exact absent (of_decide_eq_true isTag ▸ among)
    simpa [remaining, change] using List.eraseP_of_forall_not others
  · simp [remaining, change, same]

/-- What a receiver does: what its tag came with first. -/
def reactionOf (history : List (Wiring w)) (tag : Text) : List (Wiring w) :=
  ((history.find? (·.tag = tag)).map reaction).getD []

/-- A receiver ends with the first thing that is refused. -/
def perform (history : List (Wiring w)) : List (Wiring w) → Bool × List (Wiring w)
  | [] => (true, history)
  | x :: rest => if x.isRefused history then (false, history ++ [x]) else perform (history ++ [x]) rest

/-- The receivers that are called of those to be called, whether the last one was done, and the history after that. -/
def deliver (history : List (Wiring w)) : List Text → List Text × Bool × List (Wiring w)
  | [] => ([], true, history)
  | tag :: rest =>
    let performed := perform history (reactionOf history tag)
    if performed.1 then
      let later := deliver performed.2 rest
      (tag :: later.1, later.2)
    else ([tag], performed)

/-- The receivers that are called are the first of those to be called, and all of them unless one fails. -/
theorem deliver_spec (history : List (Wiring w)) (tags : List Text) :
    (deliver history tags).1 <+: tags ∧ ((deliver history tags).2.1 → (deliver history tags).1 = tags) := by
  induction tags generalizing history with
  | nil => exact ⟨List.prefix_rfl, fun _ => rfl⟩
  | cons tag rest ih =>
    rw [deliver]
    cases done : (perform history (reactionOf history tag)).1 with
    | false => exact ⟨⟨rest, rfl⟩, fun all => absurd (done ▸ all) (by simp)⟩
    | true =>
      obtain ⟨first, all⟩ := ih (perform history (reactionOf history tag)).2
      exact ⟨(List.prefix_cons_inj tag).mpr first, fun done => congrArg (tag :: ·) (all done)⟩

end Wiring

/-- A use of a signal. -/
inductive SignalUse (w : World) where
  | wire (x : Wiring w)
  | emit (s : w.Signal) (args : List Value)

namespace SignalUse

open Wiring

def step : SignalUse w → Step
  | .wire x => x.step
  | .emit s args => .emit s.id s.name (args.map .plain)

def answer (done : Bool) : Except Trouble Answer := if done then .ok .nothing else .error (.fault .notConnected)

/-- What a use gives after a history of connections, and the history after it. -/
def told (history : List (Wiring w)) : SignalUse w → Outcome × List (Wiring w)
  | .wire x => (⟨answer (!x.isRefused history), [], [], []⟩, history ++ [x])
  | .emit s args =>
    let delivered := deliver history (remaining s history)
    (⟨answer delivered.2.1, [], delivered.1.map (.received · args), []⟩, delivered.2.2)

def tellAll (history : List (Wiring w)) : List (SignalUse w) → List Outcome
  | [] => []
  | use :: rest => (use.told history).1 :: tellAll (use.told history).2 rest

end SignalUse

/-! ## Connections -/

/-- The session stands as the history of its connections says. -/
structure Reflects (w after : World) (history : List (Wiring w)) : Prop where
  signals : ∀ s : w.Signal, ∃ o owner types, Keyed.get? s.id after.objects = some o ∧
    o.lineage.lookup? s.name = some (owner, .signal types) ∧ o.connections.receivers s.name = Wiring.remaining s history
  reactions : ∀ tag, Keyed.get? tag after.receivers =
    (history.find? (·.tag = tag)).map fun x => Wiring.steps x.reaction

/-- The session has told nothing else. -/
structure ToldSame (w after : World) : Prop where
  sent : after.sent = w.sent
  events : after.events = w.events
  log : after.log = w.log

theorem Datum.evalAll_plain (m : Module) (vs : List Value) : evalAll m (vs.map .plain) = .ok vs := by
  induction vs with
  | nil => rfl
  | cons v rest ih =>
    rw [List.map_cons, evalAll, eval, ih]
    rfl

namespace Reflects

variable {after : World} {history : List (Wiring w)} (reflects : Reflects w after history)

include reflects

theorem outcome_signal (s : w.Signal) (use : Text) :
    ∃ o types, (Act.signal s.id s.name use).outcome after = (.ok (o, types), after) ∧
      Keyed.get? s.id after.objects = some o ∧ o.connections.receivers s.name = Wiring.remaining s history := by
  obtain ⟨o, owner, types, there, found, receivers⟩ := reflects.signals s
  refine ⟨o, types, ?_, there, receivers⟩
  simp [Act.signal, Act.outcome_object after there, Act.outcome_found after found]

theorem reactions_mention (x : Wiring w) {middle : World}
    (mentioned : (Act.mention x.tag (Wiring.steps x.reaction)).outcome after = (.ok (), middle)) (tag : Text) :
    Keyed.get? tag middle.receivers =
      ((history ++ [x]).find? (·.tag = tag)).map fun x => Wiring.steps x.reaction := by
  have known := reflects.reactions x.tag
  have others := reflects.reactions tag
  rw [Act.mention, Act.outcome_modify] at mentioned
  cases mentioned
  rw [List.find?_append]
  by_cases same : x.tag = tag
  · subst same
    cases found : history.find? (·.tag = x.tag) with
    | some first => simp [known, found]
    | none => simp [known, found, Keyed.get?_set_self]
  · cases found : Keyed.get? x.tag after.receivers <;>
      simp [others, same, Keyed.get?_set_of_ne (Ne.symm same)]

theorem signals_set {s : w.Signal} {o : Instance} (there : Keyed.get? s.id after.objects = some o) {x : Wiring w}
    (about : x.signal = s) {receivers : List Text}
    (changed : Wiring.change s (Wiring.remaining s history) x = receivers) (s' : w.Signal) :
    ∃ o' owner types,
      Keyed.get? s'.id (Keyed.set s.id { o with connections := o.connections.setReceivers s.name receivers }
        after.objects) = some o' ∧ o'.lineage.lookup? s'.name = some (owner, .signal types) ∧
      o'.connections.receivers s'.name = Wiring.remaining s' (history ++ [x]) := by
  obtain ⟨o', owner, types, there', found, isRemaining⟩ := reflects.signals s'
  by_cases same : s' = s
  · subst same
    cases there.symm.trans there'
    refine ⟨_, owner, types, Keyed.get?_set_self _ _ _, found, ?_⟩
    simp [Connections.receivers_setReceivers_self, Wiring.remaining, ← changed]
  · have kept : Wiring.remaining s' (history ++ [x]) = Wiring.remaining s' history := by
      cases x <;> simp_all [Wiring.remaining, Wiring.change, Wiring.signal, Ne.symm]
    rw [kept]
    by_cases sameId : s'.id = s.id
    · rw [sameId, there] at there'
      cases there'
      have other : s'.name ≠ s.name := fun sameName => same (by cases s; cases s'; simp_all)
      refine ⟨{ o with connections := o.connections.setReceivers s.name receivers }, owner, types, ?_, found, ?_⟩
      · rw [sameId, Keyed.get?_set_self]
      · rw [Connections.receivers_setReceivers_of_ne _ other, isRemaining]
    · exact ⟨o', owner, types, by rw [Keyed.get?_set_of_ne sameId, there'], found, isRemaining⟩

theorem wire (inner : Step → Act Answer) (x : Wiring w) :
    ∃ later, (takeSignalStep inner x.step).outcome after =
        (if x.isRefused history then .error .notConnected else .ok .nothing, later) ∧
      Reflects w later (history ++ [x]) ∧ ToldSame after later := by
  obtain ⟨middle, mentioned, told⟩ : ∃ middle, (Act.mention x.tag (Wiring.steps x.reaction)).outcome after =
      (.ok (), middle) ∧ middle.objects = after.objects ∧ ToldSame after middle := by
    refine ⟨_, by rw [Act.mention, Act.outcome_modify], ?_⟩
    split <;> exact ⟨rfl, rfl, rfl, rfl⟩
  have reactions := reflects.reactions_mention x mentioned
  cases x with
  | connect s tag reaction =>
    obtain ⟨o, types, found, there, receivers⟩ := reflects.outcome_signal s "connect"
    have signals := reflects.signals_set there (x := .connect s tag reaction) rfl rfl
    refine ⟨{ middle with objects := Keyed.set s.id { o with connections := o.connections.connect s.name tag } middle.objects },
      ?_, ⟨?_, reactions⟩, told.2.sent, told.2.events, told.2.log⟩
    · rw [Wiring.step, takeSignalStep, connect]
      simp only [Act.outcome_bind, found]
      simp only [Wiring.tag, Wiring.reaction] at mentioned
      simp [mentioned, Act.keep, Wiring.isRefused]
    · simpa [told.1, Connections.connect, receivers, Wiring.change] using signals
  | disconnect s tag reaction =>
    obtain ⟨o, types, found, there, receivers⟩ := reflects.outcome_signal s "disconnect"
    simp only [Wiring.tag, Wiring.reaction] at mentioned
    by_cases connected : tag ∈ Wiring.remaining s history
    · have signals := reflects.signals_set there (x := .disconnect s tag reaction) rfl rfl
      obtain ⟨kept, isKept⟩ : ∃ kept : Instance, kept =
        { o with connections := o.connections.setReceivers s.name ((Wiring.remaining s history).eraseP (tag = ·)) } := ⟨_, rfl⟩
      refine ⟨{ middle with objects := Keyed.set s.id kept middle.objects }, ?_, ⟨?_, reactions⟩, told.2.sent,
        told.2.events, told.2.log⟩
      · rw [Wiring.step, takeSignalStep]
        simp only [Act.outcome_bind, found, mentioned]
        simp [Connections.disconnect?, receivers, connected, isKept, Act.keep, Wiring.isRefused, List.erase_eq_eraseP,
          beq_eq_decide]
      · simpa [told.1, isKept, Wiring.change] using signals
    · refine ⟨middle, ?_, ⟨fun s' => ?_, reactions⟩, told.2⟩
      · rw [Wiring.step, takeSignalStep]
        simp only [Act.outcome_bind, found, mentioned]
        simp [Connections.disconnect?, receivers, connected, Wiring.isRefused]
      · rw [told.1, Wiring.remaining_of_notMem connected]
        exact reflects.signals s'

/-! ## Receivers -/

theorem perform (depth : Nat) (xs : List (Wiring w)) :
    ∃ later, ((Wiring.steps xs).forM fun step => discard (takeWithin (depth + 1) step)).outcome after =
        (if (Wiring.perform history xs).1 then .ok () else .error .notConnected, later) ∧
      Reflects w later (Wiring.perform history xs).2 ∧ ToldSame after later := by
  induction xs generalizing after history with
  | nil => exact ⟨after, rfl, reflects, rfl, rfl, rfl⟩
  | cons x rest ih =>
    obtain ⟨middle, taken, agreed, told⟩ := reflects.wire (takeWithin depth) x
    have isTaken : takeWithin (depth + 1) x.step = takeSignalStep (takeWithin depth) x.step := by cases x <;> rfl
    rw [Wiring.steps, List.forM_eq_forM, List.forM_cons, isTaken, discard, map_const, Act.outcome_bind, Function.comp,
      Act.outcome_map, taken, Wiring.perform]
    cases refused : x.isRefused history with
    | true => exact ⟨middle, rfl, agreed, told⟩
    | false =>
      obtain ⟨later, performed, agreed, toldLater⟩ := ih agreed
      refine ⟨later, performed, agreed, ?_⟩
      exact ⟨toldLater.sent.trans told.sent, toldLater.events.trans told.events, toldLater.log.trans told.log⟩

/-- Receivers are called in turn until one of them fails. Whatever they do, it is those that were there at first. -/
theorem deliver (depth : Nat) (args : List Value) (tags : List Text) :
    ∃ later, (tags.forM (notify (takeWithin (depth + 1)) args)).outcome after =
        (if (Wiring.deliver history tags).2.1 then .ok () else .error .notConnected, later) ∧
      Reflects w later (Wiring.deliver history tags).2.2 ∧ later.sent = after.sent ∧ later.log = after.log ∧
      later.events = after.events ++ (Wiring.deliver history tags).1.map (.received · args) := by
  induction tags generalizing after history with
  | nil => exact ⟨after, rfl, reflects, rfl, rfl, by simp [Wiring.deliver]⟩
  | cons tag rest ih =>
    have noted : Reflects w { after with events := after.events ++ [.received tag args] } history :=
      ⟨reflects.signals, reflects.reactions⟩
    obtain ⟨middle, performed, agreed, told⟩ := noted.perform depth (Wiring.reactionOf history tag)
    have reaction : (Keyed.get? tag after.receivers).getD [] = Wiring.steps (Wiring.reactionOf history tag) := by
      rw [reflects.reactions, Wiring.reactionOf]
      cases history.find? (·.tag = tag) <;> simp [Wiring.steps]
    have called : (notify (takeWithin (depth + 1)) args tag).outcome after =
        (if (Wiring.perform history (Wiring.reactionOf history tag)).1 then .ok () else .error .notConnected, middle) := by
      simp only [notify, Act.note, Act.outcome_bind, Act.outcome_modify, Act.outcome_get, reaction]
      exact performed
    rw [List.forM_eq_forM, List.forM_cons, Act.outcome_bind, called, Wiring.deliver]
    cases done : (Wiring.perform history (Wiring.reactionOf history tag)).1 with
    | false => exact ⟨middle, by simp [done], agreed, told.sent, told.log, told.events⟩
    | true =>
      obtain ⟨later, delivered, agreed, sent, log, events⟩ := ih agreed
      refine ⟨later, delivered, agreed, sent.trans told.sent, log.trans told.log, ?_⟩
      simp [events, told.events]

theorem advance (quiet : ToldSame {} after) (use : SignalUse w) :
    (Session.advance after use.step).1 = (use.told history).1 ∧
      Reflects w (Session.advance after use.step).2 (use.told history).2 ∧
      ToldSame {} (Session.advance after use.step).2 := by
  have taken : ∀ inner, take inner use.step = takeSignalStep inner use.step := by
    rcases use with ⟨_ | _⟩ | _ <;> exact fun _ => rfl
  rw [advance_eq taken]
  cases use with
  | wire x =>
    obtain ⟨later, taken, agreed, told⟩ := reflects.wire (takeWithin (after.depth + 1)) x
    simp only [SignalUse.step, taken]
    refine ⟨?_, ⟨agreed.signals, agreed.reactions⟩, rfl, rfl, rfl⟩
    rw [SignalUse.told, told.sent, told.events, told.log, quiet.sent, quiet.events, quiet.log]
    cases x.isRefused history <;> rfl
  | emit s args =>
    obtain ⟨o, types, found, -, receivers⟩ := reflects.outcome_signal s "emit"
    obtain ⟨later, delivered, agreed, sent, log, events⟩ := reflects.deliver after.depth args (Wiring.remaining s history)
    have given : (Act.evalAll (args.map .plain)).outcome after = (.ok args, after) := by
      simp [Act.evalAll, Act.module, Datum.evalAll_plain]
    have taken : (takeSignalStep (takeWithin (after.depth + 1)) (.emit s.id s.name (args.map .plain))).outcome after =
        (if (Wiring.deliver history (Wiring.remaining s history)).2.1 then .ok .nothing else .error .notConnected,
          later) := by
      simp only [takeSignalStep, emit, Act.outcome_bind, found, given, receivers, delivered]
      cases (Wiring.deliver history (Wiring.remaining s history)).2.1 <;> rfl
    simp only [SignalUse.step, taken]
    refine ⟨?_, ⟨agreed.signals, agreed.reactions⟩, rfl, rfl, rfl⟩
    rw [SignalUse.told, sent, log, events, quiet.sent, quiet.events, quiet.log]
    cases (Wiring.deliver history (Wiring.remaining s history)).2.1 <;> rfl

end Reflects

/-! ## Sessions -/

/-- Nothing has been told, nothing has been connected, and no class takes the place of what signals are made with. -/
structure World.Fresh (w : World) : Prop where
  unhidden : w.module.Unhidden
  quiet : w.sent = [] ∧ w.events = [] ∧ w.log = []
  untagged : w.receivers = []
  unconnected : ∀ entry ∈ w.objects, entry.2.connections.bySignal = []

theorem World.Fresh.reflects (fresh : w.Fresh) : Reflects w w [] := by
  refine ⟨fun s => ?_, fun tag => by rw [fresh.untagged]; rfl⟩
  have there := s.there
  unfold hasSignal at there
  split at there
  next owner types found =>
    obtain ⟨o, isObject, isSignal⟩ := Option.bind_eq_some_iff.mp found
    refine ⟨o, owner, types, isObject, isSignal, ?_⟩
    have empty : o.connections.bySignal = [] := fresh.unconnected _ (Keyed.mem_of_get? isObject)
    simp [Connections.receivers, empty, Keyed.get?, Wiring.remaining]
  next => cases there

theorem Reflects.advanceAll {after : World} {history : List (Wiring w)} (reflects : Reflects w after history)
    (quiet : ToldSame {} after) (uses : List (SignalUse w)) :
    Session.advanceAll after (uses.map (·.step)) = SignalUse.tellAll history uses := by
  induction uses generalizing after history with
  | nil => rfl
  | cons use rest ih =>
    obtain ⟨told, agreed, quiet⟩ := reflects.advance quiet use
    rw [SignalUse.tellAll, ← told, ← ih agreed quiet]
    rfl

/-- What a session tells of its signals follows from the history of their connections. An emit calls the receivers that
remain to the signal when it begins, in their order and with what is given, until one fails; if none does, it calls all
of them. Who is not connected cannot be taken away, and the attempt changes nothing. -/
theorem signals_follow_history (fresh : w.Fresh) (uses : List (SignalUse w)) :
    advanceAll w (uses.map (·.step)) = SignalUse.tellAll [] uses ∧
    (∀ history (s : w.Signal) args, ∃ called,
      ((SignalUse.emit s args).told history).1.events = called.map (.received · args) ∧
      called <+: Wiring.remaining s history ∧
      (((SignalUse.emit s args).told history).1.answer = .ok .nothing → called = Wiring.remaining s history)) ∧
    ∀ history (s : w.Signal) tag reaction, tag ∉ Wiring.remaining s history →
      ((SignalUse.wire (.disconnect s tag reaction)).told history).1.answer = .error (.fault .notConnected) ∧
      ∀ s', Wiring.remaining s' (history ++ [.disconnect s tag reaction]) = Wiring.remaining s' history := by
  refine ⟨fresh.reflects.advanceAll ⟨fresh.quiet.1, fresh.quiet.2.1, fresh.quiet.2.2⟩ uses, fun history s args => ?_,
    fun history s tag reaction absent => ⟨?_, Wiring.remaining_of_notMem absent reaction⟩⟩
  · obtain ⟨first, all⟩ := Wiring.deliver_spec history (Wiring.remaining s history)
    refine ⟨_, rfl, first, fun answered => all ?_⟩
    simp only [SignalUse.told, SignalUse.answer] at answered
    split at answered
    next done => exact done
    next => cases answered
  · simp [SignalUse.told, SignalUse.answer, Wiring.isRefused, absent]

def belfry : World :=
  let bell : ClassDecl := { name := "Bell", signals := [{ name := "rung", params := [⟨"int", "times"⟩] }] }
  let north := (advance { module := { interface := { classes := [bell] } } } (.source "north" "Bell" none)).2
  (advance north (.source "south" "Bell" none)).2

def belfryNorth : belfry.Signal := ⟨"north", "rung", by decide +kernel⟩

def belfrySouth : belfry.Signal := ⟨"south", "rung", by decide +kernel⟩

/-- A receiver that leaves when it is called and brings another one, and one that fails. -/
def belfryUses : List (SignalUse belfry) :=
  [.wire (.connect belfryNorth "a" [.disconnect belfryNorth "a" [], .connect belfryNorth "c" []]),
    .wire (.connect belfryNorth "b" []), .wire (.connect belfrySouth "d" [.disconnect belfryNorth "a" []]),
    .wire (.connect belfrySouth "b" []), .emit belfryNorth [.integer 1], .emit belfryNorth [.integer 2],
    .emit belfrySouth [.integer 3]]

theorem signals_follow_history_belfry :
    belfry.Fresh ∧ (advanceAll belfry (belfryUses.map (·.step))).map (·.events) =
      [[], [], [], [], [.received "a" [.integer 1], .received "b" [.integer 1]],
        [.received "b" [.integer 2], .received "c" [.integer 2]], [.received "d" [.integer 3]]] := by
  have fresh : belfry.Fresh := ⟨by decide +kernel, ⟨rfl, rfl, rfl⟩, by decide +kernel, by decide +kernel⟩
  refine ⟨fresh, ?_⟩
  rw [(signals_follow_history fresh belfryUses).1]
  rfl

end Counterpart.Session
