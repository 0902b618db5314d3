import Mathlib.Data.List.Chain
import RabbitRemote.Session

namespace RabbitRemote.Session

-- What the owner of a session may do. How the other side behaves stands beside each request.
inductive Call where
  | request (base : String) (parameters : Ledger String String) (conduct : Conduct)
  | close

def take (session : Session) : Call → Session × List Event
  | .request base parameters conduct =>
    let exchange := session.submit base parameters conduct
    (exchange.session, exchange.events)
  | .close => session.close

def after (session : Session) : List Call → Session
  | [] => session
  | call :: rest => after (session.take call).1 rest

-- All that can be seen from outside of a run of calls.
def seen (session : Session) : List Call → List Event
  | [] => []
  | call :: rest => (session.take call).2 ++ seen (session.take call).1 rest

def Call.url? : Call → Option String
  | .request base parameters _ => some (RequestUrl.build base parameters)
  | .close => none

def Event.url? : Event → Option String
  | .asked url => some url
  | _ => none

def Event.isSwitch : Event → Bool
  | .asked _ => false
  | _ => true

-- How many sessions are open after some events, by the events alone.
def standing (events : List Event) : Int := events.count .opened - events.count .closed

def Alternates (first : Event) (switches : List Event) : Prop :=
  switches.IsChain (· ≠ ·) ∧ ∀ event ∈ switches.head?, event = first

-- The events that can follow on a phase, and the phase that they lead to. Nothing is asked while no
-- session is open, and a lent one is neither opened nor closed.
inductive Lives : Phase → List Event → Phase → Prop where
  | done (phase : Phase) : Lives phase [] phase
  | opened {events : List Event} {last : Phase} (rest : Lives .own events last) :
      Lives .closed (.opened :: events) last
  | asked {phase last : Phase} {events : List Event} (url : String) (isOpen : phase ≠ .closed)
      (rest : Lives phase events last) : Lives phase (.asked url :: events) last
  | closed {events : List Event} {last : Phase} (rest : Lives .closed events last) :
      Lives .own (.closed :: events) last

def Phase.standing : Phase → Int
  | .own => 1
  | _ => 0

variable {first middle last : Phase} {events more : List Event}

theorem Lives.append (one : Lives first events middle) (two : Lives middle more last) :
    Lives first (events ++ more) last := by
  induction one with
  | done phase => exact two
  | opened _ ih => exact .opened (ih two)
  | asked url isOpen _ ih => exact .asked url isOpen (ih two)
  | closed _ ih => exact .closed (ih two)

theorem Lives.split (lives : Lives first (events ++ more) last) :
    ∃ middle, Lives first events middle ∧ Lives middle more last := by
  induction events generalizing first with
  | nil => exact ⟨first, .done first, lives⟩
  | cons event events ih =>
    cases lives with
    | opened rest =>
      obtain ⟨middle, one, two⟩ := ih rest
      exact ⟨middle, .opened one, two⟩
    | asked url isOpen rest =>
      obtain ⟨middle, one, two⟩ := ih rest
      exact ⟨middle, .asked url isOpen one, two⟩
    | closed rest =>
      obtain ⟨middle, one, two⟩ := ih rest
      exact ⟨middle, .closed one, two⟩

theorem Lives.standing (lives : Lives first events last) :
    first.standing + Session.standing events = last.standing := by
  induction lives with
  | done phase => simp [Session.standing]
  | opened _ ih =>
    simp [Session.standing, Phase.standing] at ih ⊢
    omega
  | asked url isOpen _ ih =>
    simp [Session.standing] at ih ⊢
    exact ih
  | closed _ ih =>
    simp [Session.standing, Phase.standing] at ih ⊢
    omega

theorem Lives.stays_own (lives : Lives first events last) (own : first ≠ .lent) : last ≠ .lent := by
  induction lives with
  | done phase => exact own
  | opened _ ih => exact ih (by simp)
  | asked _ _ _ ih => exact ih own
  | closed _ ih => exact ih (by simp)

theorem Lives.stays_lent (lives : Lives .lent events last) :
    last = .lent ∧ ∀ event ∈ events, ∃ url, event = .asked url := by
  generalize start : Phase.lent = phase at lives
  induction lives with
  | done phase => simp
  | opened => cases start
  | closed => cases start
  | asked url isOpen _ ih =>
    obtain ⟨same, others⟩ := ih start
    refine ⟨same, ?_⟩
    intro event member
    rcases List.mem_cons.mp member with here | later
    · exact ⟨url, here⟩
    · exact others event later

theorem alternates_cons {event other : Event} {switches : List Event} (differs : event ≠ other)
    (rest : Alternates other switches) : Alternates event (event :: switches) := by
  refine ⟨rest.1.cons ?_, by simp⟩
  intro next member
  rw [rest.2 next member]
  exact differs

-- An open session is switched next by closing it, and a closed one by opening it.
theorem Lives.alternates (lives : Lives first events last) (own : first ≠ .lent) :
    Alternates (if first = .closed then .opened else .closed) (events.filter Event.isSwitch) := by
  induction lives with
  | done phase => exact ⟨.nil, by simp⟩
  | opened _ ih => exact alternates_cons (by simp) (ih (by simp))
  | asked url _ _ ih => exact ih own
  | closed _ ih => exact alternates_cons (by simp) (ih (by simp))

theorem take_lives (session : Session) (call : Call) :
    Lives session.phase (session.take call).2 (session.take call).1.phase := by
  obtain ⟨limit, phase⟩ := session
  cases call with
  | request base parameters conduct =>
    cases phase with
    | closed => exact .opened (.asked _ (by simp) (.done _))
    | own => exact .asked _ (by simp) (.done _)
    | lent => exact .asked _ (by simp) (.done _)
  | close =>
    cases phase with
    | closed => exact .done _
    | own => exact .closed (.done _)
    | lent => exact .done _

theorem run_lives (session : Session) (calls : List Call) :
    Lives session.phase (session.seen calls) (session.after calls).phase := by
  induction calls generalizing session with
  | nil => exact .done _
  | cons call rest ih => exact (take_lives session call).append (ih _)

theorem after_append (session : Session) (earlier later : List Call) :
    session.after (earlier ++ later) = (session.after earlier).after later := by
  induction earlier generalizing session with
  | nil => rfl
  | cons call rest ih => exact ih _

theorem take_asks (session : Session) (call : Call) :
    (session.take call).2.filterMap Event.url? = call.url?.toList := by
  obtain ⟨limit, phase⟩ := session
  cases call <;> cases phase <;> rfl

-- Each request is one question, whatever came of those before, and nothing else asks.
theorem run_asks (session : Session) (calls : List Call) :
    (session.seen calls).filterMap Event.url? = calls.filterMap Call.url? := by
  induction calls generalizing session with
  | nil => rfl
  | cons call rest ih =>
    rw [seen, List.filterMap_append, take_asks, ih]
    cases asked : call.url? <;> simp [asked]

-- What is seen of a session that its owner opens at need, up to a moment and with the next call.
structure OwnLife (session : Session) (calls : List Call) : Prop where
  asks : (session.seen calls).filterMap Event.url? = calls.filterMap Call.url?
  alternating : Alternates .opened ((session.seen calls).filter Event.isSwitch)
  single : ∀ past, past <+: session.seen calls → standing past = 0 ∨ standing past = 1
  reached : ∀ past url rest, session.seen calls = past ++ .asked url :: rest → standing past = 1
  requested : ∀ base parameters conduct,
    ((session.after calls).take (.request base parameters conduct)).2 =
      (if standing (session.seen calls) = 0 then [.opened] else []) ++
        [.asked (RequestUrl.build base parameters)] ∧
    standing (session.seen (calls ++ [.request base parameters conduct])) = 1
  released : ((session.after calls).take .close).2 =
      (if standing (session.seen calls) = 0 then [] else [.closed]) ∧
    standing (session.seen (calls ++ [.close])) = 0
  repeated : standing (session.seen calls) = 0 →
    (session.after calls).take .close = (session.after calls, [])

structure LentLife (session : Session) (calls : List Call) : Prop where
  asks : (session.seen calls).filterMap Event.url? = calls.filterMap Call.url?
  kept : ∀ event ∈ session.seen calls, ∃ url, event = .asked url
  requested : ∀ base parameters conduct,
    ((session.after calls).take (.request base parameters conduct)).2 =
      [.asked (RequestUrl.build base parameters)]
  released : (session.after calls).take .close = (session.after calls, [])

theorem request_while_closed {session : Session} (closed : session.phase = .closed) (base : String)
    (parameters : Ledger String String) (conduct : Conduct) :
    session.take (.request base parameters conduct) =
      ({ session with phase := .own }, [.opened, .asked (RequestUrl.build base parameters)]) := by
  simp [take, submit, ensure, isOpen, closed]

theorem request_while_open {session : Session} (isOpen : session.phase ≠ .closed) (base : String)
    (parameters : Ledger String String) (conduct : Conduct) :
    session.take (.request base parameters conduct) =
      (session, [.asked (RequestUrl.build base parameters)]) := by
  simp [take, submit, ensure, Session.isOpen, isOpen]

theorem close_own {session : Session} (own : session.phase = .own) :
    session.take .close = ({ session with phase := .closed }, [.closed]) := by
  simp [take, close, own]

theorem close_nothing {session : Session} (notOwn : session.phase ≠ .own) :
    session.take .close = (session, []) := by
  unfold take close
  cases phase : session.phase with
  | own => exact absurd phase notOwn
  | closed => rfl
  | lent => rfl

section
variable {session : Session} (unopened : session.phase = .closed) (calls : List Call)
include unopened

theorem lives_from_start : Lives .closed (session.seen calls) (session.after calls).phase := by
  rw [← unopened]
  exact run_lives session calls

-- The phase is what the events tell.
theorem phase_of_standing :
    (session.after calls).phase = .closed ∧ standing (session.seen calls) = 0 ∨
      (session.after calls).phase = .own ∧ standing (session.seen calls) = 1 := by
  have lives := lives_from_start unopened calls
  have count := lives.standing
  cases phase : (session.after calls).phase with
  | closed =>
    rw [phase] at count
    simpa [Phase.standing] using count
  | own =>
    rw [phase] at count
    simpa [Phase.standing] using count
  | lent => exact absurd phase (lives.stays_own (by simp))

theorem standing_after_call (call : Call) (phase : Phase)
    (taken : ((session.after calls).take call).1.phase = phase) :
    standing (session.seen (calls ++ [call])) = phase.standing := by
  have lives := lives_from_start unopened (calls ++ [call])
  rw [after_append, after, after, taken] at lives
  simpa [Phase.standing] using lives.standing

-- At whatever moment one looks, the events so far lead to a phase of an owner's session.
theorem seen_so_far {past rest : List Event} (parted : session.seen calls = past ++ rest) :
    ∃ middle, standing past = Phase.standing middle ∧ middle ≠ .lent ∧
      Lives middle rest (session.after calls).phase := by
  have lives := lives_from_start unopened calls
  rw [parted] at lives
  obtain ⟨middle, before, further⟩ := lives.split
  have count := before.standing
  exact ⟨middle, by simpa [Phase.standing] using count, before.stays_own (by simp), further⟩

theorem own_life : OwnLife session calls := by
  have alternating := (lives_from_start unopened calls).alternates (by simp)
  refine ⟨run_asks session calls, alternating, ?single, ?reached, ?requested, ?released, ?repeated⟩
  case single =>
    intro past begun
    obtain ⟨rest, parted⟩ := begun
    obtain ⟨middle, count, own, _⟩ := seen_so_far unopened calls parted.symm
    cases middle with
    | closed => exact .inl count
    | own => exact .inr count
    | lent => exact absurd rfl own
  case reached =>
    intro past url rest parted
    obtain ⟨middle, count, own, further⟩ := seen_so_far unopened calls parted
    cases further with
    | asked _ isOpen _ =>
      cases middle with
      | closed => exact absurd rfl isOpen
      | own => exact count
      | lent => exact absurd rfl own
  case requested =>
    intro base parameters conduct
    have kept := standing_after_call unopened calls (.request base parameters conduct) .own
    rcases phase_of_standing unopened calls with ⟨phase, count⟩ | ⟨phase, count⟩
    · rw [request_while_closed phase] at kept ⊢
      rw [count]
      exact ⟨rfl, kept rfl⟩
    · have isOpen : (session.after calls).phase ≠ .closed := by simp [phase]
      rw [request_while_open isOpen] at kept ⊢
      rw [count]
      exact ⟨rfl, kept phase⟩
  case released =>
    have left := standing_after_call unopened calls .close .closed
    rcases phase_of_standing unopened calls with ⟨phase, count⟩ | ⟨phase, count⟩
    · rw [close_nothing (by simp [phase])] at left ⊢
      rw [count]
      exact ⟨rfl, left phase⟩
    · rw [close_own phase] at left ⊢
      rw [count]
      exact ⟨rfl, left rfl⟩
  case repeated =>
    intro none
    rcases phase_of_standing unopened calls with ⟨phase, _⟩ | ⟨_, count⟩
    · exact close_nothing (by simp [phase])
    · rw [count] at none
      cases none

end

theorem lent_life {session : Session} (lent : session.phase = .lent) (calls : List Call) :
    LentLife session calls := by
  have lives := run_lives session calls
  rw [lent] at lives
  obtain ⟨phase, kept⟩ := lives.stays_lent
  have isOpen : (session.after calls).phase ≠ .closed := by simp [phase]
  have notOwn : (session.after calls).phase ≠ .own := by simp [phase]
  refine ⟨run_asks session calls, kept, ?_, close_nothing notOwn⟩
  intro base parameters conduct
  rw [request_while_open isOpen]

-- However requests end and whenever the owner closes, each request asks once, over the one session
-- that is open then. An owner's session comes and goes; a lent one is never touched.
theorem one_session_at_a_time (limit : Number.Binary64) (calls : List Call) :
    OwnLife ⟨limit, .closed⟩ calls ∧ LentLife ⟨limit, .lent⟩ calls :=
  ⟨own_life rfl calls, lent_life rfl calls⟩

end RabbitRemote.Session
