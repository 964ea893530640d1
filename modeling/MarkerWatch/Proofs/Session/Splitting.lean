import Mathlib.Logic.Function.Iterate
import MarkerWatch.Proofs.Session.Log
import MarkerWatch.Proofs.Session.Supply

/-!
# Dispatches do not depend on how reads split the records

Let subscribers leave registries alone: when they are told of an event, all they do is to make calls
on files.  Then a dispatch takes up all records that its descriptor supplies, whichever way reads
cut them into buffers, and tells the subscribers of each in turn.

The proof follows the dispatch forward.  `Machine.Surely` says that however subscribers decide,
those are told who should be, and a goal is reached; each part of a dispatch surely leads to what
comes after it.
-/

namespace MarkerWatch

/-- Whom an engine has to tell of a record.  Where there is no engine, that is nobody. -/
def Service.audience (s : Service) (r : Nat) (h : Handle) (record : Record) :
    List (Subscriber × Payload) :=
  match s.engine? r h with
  | some e => e.table.matching record.watch record.mask
  | none => []

theorem Service.audience_eq_of_engine?
    {s after : Service}
    (same : after.engine? = s.engine?) :
    after.audience = s.audience := by
  funext r h record
  rw [audience, audience, same]

/-- What a dispatch answers that has taken so many records up, the next one being malformed or not
there. -/
def Dispatch.outcome (count : Nat) : Option RecordFault → Answer
  | none => .count count
  | some fault => .fault (.overflow fault)

variable {calls : FileCall → Prop}

namespace Session

/-- Subscribers that are bound to scripts of some calls on files. -/
def Confined (calls : FileCall → Prop) (s : Session) : Prop :=
  ∀ label behaviour, Assoc.get? s.behaviours label = some behaviour →
    ∀ action ∈ behaviour.script, ∃ c, calls c ∧ action = .call (.file c)

variable {s later : Session}

theorem Confined.telling
    (confined : s.Confined calls) (label : String) (data : Payload) :
    (s.telling label data).Confined calls := by
  intro other behaviour found
  obtain ⟨old, foundOld, script, -⟩ := exists_of_told found
  rw [script]
  exact confined other old foundOld

/-- What a session has become while subscribers made calls on files. -/
structure Continues (calls : FileCall → Prop) (s later : Session) : Prop where
  stirred : Stirred calls s later
  confined : later.Confined calls

namespace Continues

variable {last : Session}

theorem refl (confined : s.Confined calls) : s.Continues calls s where
  stirred := .refl
  confined := confined

theorem trans
    (first : s.Continues calls later)
    (second : later.Continues calls last) :
    s.Continues calls last where
  stirred := first.stirred.trans second.stirred
  confined := second.confined

/-- Something is noted, and scripts stay what they are. -/
theorem of_noted
    (confined : later.Confined calls)
    (same : later.service = s.service) :
    s.Continues calls later where
  stirred := .single (.note same)
  confined := confined

theorem call
    (confined : s.Confined calls)
    {c : FileCall} (permitted : calls c) :
    s.Continues calls (s.callFile c).2 where
  stirred := .single (.call s permitted)
  confined := by
    obtain ⟨host, equal, -⟩ := s.heard_callFile c
    rw [equal]
    exact confined

end Continues

end Session

namespace Machine

/-! ## Reaching a goal, however subscribers decide -/

/-- One step of a session whose subscribers perform their scripts, or decide on calls on files. -/
inductive Mild (calls : FileCall → Prop) : Machine → Machine → Prop
  | scripted {m next : Machine} (stepped : m.step = some next) : Mild calls m next
  | chosen {m : Machine} {label : String} {data : Payload} {rest : List (Subscriber × Payload)}
      {below : List Task} (told : m.tasks = .tell ((.labelled label, data) :: rest) :: below)
      {actions : List Action}
      (permitted : ∀ action ∈ actions, ∃ c, calls c ∧ action = .call (.file c)) :
      Mild calls m (m.decided label data actions (.tell rest :: below))

theorem Mild.toStep
    {m next : Machine}
    (mild : Mild calls m next) :
    Step m next := by
  cases mild with
  | scripted stepped => exact .scripted stepped
  | chosen told permitted => exact .chosen told _

/-- However subscribers decide, the machine comes to a goal before it comes back to some tasks.  The
goal looks at those who were told until then, after those who were told before. -/
inductive Surely (calls : FileCall → Prop) (below : List Task)
    (goal : List (Subscriber × Payload) → Machine → Prop) :
    List (Subscriber × Payload) → Machine → Prop
  | reached {heard : List (Subscriber × Payload)} {m : Machine} (holds : goal heard m) :
      Surely calls below goal heard m
  | step {heard : List (Subscriber × Payload)} {m : Machine} (busy : m.tasks ≠ below)
      (onward : ∀ next, Mild calls m next → Surely calls below goal (heard ++ m.told) next) :
      Surely calls below goal heard m

variable {below : List Task} {goal : List (Subscriber × Payload) → Machine → Prop}
  {heard : List (Subscriber × Payload)}

/-- Machines one after another come to the goal that they surely come to. -/
theorem Surely.exists_reached
    {states : Nat → Machine}
    (steps : ∀ n, (states n).tasks ≠ below → Mild calls (states n) (states (n + 1)))
    {start : Nat}
    (surely : Surely calls below goal heard (states start)) :
    ∃ count,
      (∀ n < count, (states (start + n)).tasks ≠ below) ∧
        goal (heard ++ (List.range count).flatMap fun n => (states (start + n)).told)
          (states (start + count)) := by
  generalize begun : states start = m at surely
  induction surely generalizing start with
  | @reached heard m holds =>
      subst begun
      exact ⟨0, by simp, by simpa using holds⟩
  | @step heard m busy onward ih =>
      subst begun
      obtain ⟨count, away, holds⟩ := ih _ (steps start busy) rfl
      have shift (n : Nat) : start + 1 + n = start + (n + 1) := by omega
      have whole :
          ((List.range (count + 1)).flatMap fun n => (states (start + n)).told) =
            (states start).told ++
              (List.range count).flatMap fun n => (states (start + 1 + n)).told := by
        simp only [List.range_succ_eq_map, List.flatMap_cons, List.flatMap_map, Nat.add_zero, shift]
      refine ⟨count + 1, ?_, ?_⟩
      · intro n less
        cases n with
        | zero => exact busy
        | succ n =>
            rw [← shift n]
            exact away n (Nat.lt_of_succ_lt_succ less)
      · rw [whole, ← List.append_assoc, ← shift count]
        exact holds

theorem ne_of_deeper
    {tasks : List Task} {task : Task}
    (deeper : below.length ≤ tasks.length) :
    task :: tasks ≠ below := by
  intro same
  rw [← same, List.length_cons] at deeper
  omega

variable {s : Session} {rest : List Task} {answer : Answer}

/-- A task that tells nobody of an event has one outcome. -/
theorem Surely.execute
    {task : Task}
    (nobody : told ⟨s, task :: rest, answer⟩ = [])
    (deeper : below.length ≤ rest.length)
    (onward : Surely calls below goal heard (Machine.execute ⟨s, rest, answer⟩ task)) :
    Surely calls below goal heard ⟨s, task :: rest, answer⟩ := by
  refine .step (ne_of_deeper deeper) ?_
  intro next mild
  rw [nobody, List.append_nil]
  cases mild with
  | scripted stepped =>
      rw [step_of_tasks rfl stepped]
      exact onward
  | chosen shape permitted =>
      rw [told, shape] at nobody
      cases nobody

/-! ## Subscribers -/

/-- The calls of a subscriber are made one after another. -/
theorem surely_script
    (deeper : below.length ≤ rest.length)
    (label : String) {actions : List Action}
    (permitted : ∀ action ∈ actions, ∃ c, calls c ∧ action = .call (.file c))
    (confined : s.Confined calls)
    (onward : ∀ later answer, s.Continues calls later →
      Surely calls below goal heard ⟨later, rest, answer⟩) :
    Surely calls below goal heard
      ⟨s, actions.flatMap (fun action => [.perform action, .note label]) ++ rest, answer⟩ := by
  induction actions generalizing s answer with
  | nil => exact onward s answer (.refl confined)
  | cons action actions ih =>
      obtain ⟨c, allowed, rfl⟩ := permitted action List.mem_cons_self
      have called := Session.Continues.call confined allowed
      have noted (answer : Answer) :
          s.Continues calls
            { (s.callFile c).2 with log := (s.callFile c).2.log ++ [.answered label answer] } :=
        called.trans (.of_noted called.confined rfl)
      have deeperStill :
          below.length ≤
            ((actions.flatMap fun action => [Task.perform action, .note label])
              ++ rest).length := by
        rw [List.length_append]
        omega
      apply Surely.execute rfl (Nat.le_succ_of_le deeperStill)
      apply Surely.execute rfl deeperStill
      apply ih (fun other member => permitted other (List.mem_cons_of_mem _ member))
        (noted _).confined
      intro later reply continues
      exact onward later reply ((noted _).trans continues)

/-- Subscribers are told one after the other. -/
theorem surely_tell
    (deeper : below.length ≤ rest.length)
    (targets : List (Subscriber × Payload))
    (confined : s.Confined calls)
    (onward : ∀ later answer, s.Continues calls later →
      Surely calls below goal (heard ++ targets) ⟨later, rest, answer⟩) :
    Surely calls below goal heard ⟨s, .tell targets :: rest, answer⟩ := by
  induction targets generalizing s answer heard with
  | nil =>
      apply Surely.execute rfl deeper
      have further := onward s answer (.refl confined)
      rwa [List.append_nil] at further
  | cons target targets ih =>
      obtain ⟨who, data⟩ := target
      have others {later : Session} (reply : Answer) (continues : s.Continues calls later) :
          Surely calls below goal (heard ++ [(who, data)])
            ⟨later, .tell targets :: rest, reply⟩ := by
        apply ih continues.confined
        intro last final further
        rw [List.append_assoc]
        exact onward last final (continues.trans further)
      have acts {later : Session} (label : String) {actions : List Action} (reply : Answer)
          (continues : s.Continues calls later)
          (permitted : ∀ action ∈ actions, ∃ c, calls c ∧ action = .call (.file c)) :
          Surely calls below goal (heard ++ [(who, data)])
            ⟨later,
              actions.flatMap (fun action => [.perform action, .note label]) ++
                .tell targets :: rest, reply⟩ := by
        apply surely_script (Nat.le_succ_of_le deeper) label permitted continues.confined
        intro last final further
        exact others final (continues.trans further)
      refine .step (ne_of_deeper deeper) ?_
      intro next mild
      show Surely calls below goal (heard ++ [(who, data)]) next
      cases mild with
      | scripted stepped =>
          rw [step_of_tasks rfl stepped]
          show Surely calls below goal _
            (notify ⟨s, .tell targets :: rest, answer⟩ who data)
          cases who with
          | printer position line => exact others answer (.of_noted confined rfl)
          | labelled label =>
              have told : s.Continues calls (s.telling label data) :=
                .of_noted (confined.telling label data) rfl
              rw [notify]
              split
              · rename_i script times found
                exact acts label answer told (confined label _ found)
              · exact others answer told
      | chosen shape permitted =>
          obtain ⟨same, rfl⟩ := List.cons.inj shape
          obtain ⟨equal, rfl⟩ := List.cons.inj (Task.tell.inj same)
          cases equal
          exact acts _ answer (.of_noted confined rfl) permitted

/-! ## Records and reads -/

variable {d : Dispatch}

/-- Those to be told of a record are whom the engine has to tell, if it is known whether there is
one. -/
theorem targets_eq_audience
    {m : Machine}
    (known : d.registered = m.session.service.contains d.registry d.handle)
    (record : Record) :
    m.targets d record = m.session.service.audience d.registry d.handle record := by
  rw [targets, Service.audience, known, Service.contains]
  cases m.session.service.engine? d.registry d.handle with
  | none => rfl
  | some e => rfl

/-- The records of a buffer are taken up one after the other. -/
theorem surely_records
    (packets : List Packet) (tail : List (Except RecordFault Record))
    (known : d.registered = s.service.contains d.registry d.handle)
    (confined : s.Confined calls)
    (onward : ∀ later answer, s.Continues calls later →
      Surely calls below goal
        (heard ++ packets.flatMap fun packet =>
          s.service.audience d.registry d.handle packet.record)
        ⟨later, .records { d with count := d.count + packets.length } tail :: below, answer⟩) :
    Surely calls below goal heard
      ⟨s, .records d (packets.map (.ok ·.record) ++ tail) :: below, answer⟩ := by
  induction packets generalizing s d answer heard with
  | nil =>
      have further := onward s answer (.refl confined)
      rwa [List.flatMap_nil, List.append_nil] at further
  | cons packet packets ih =>
      apply Surely.execute rfl (Nat.le_refl _)
      show Surely calls below goal heard ⟨s, .tell (targets _ d packet.record) :: _, answer⟩
      rw [targets_eq_audience known]
      apply surely_tell (Nat.le_succ _) _ confined
      intro later reply continues
      have same := continues.stirred.engine?
      refine ih (d := { d with count := d.count + 1 }) ?_ continues.confined ?_
      · rw [known, Service.contains, Service.contains, same]
      intro last final further
      have added : d.count + 1 + packets.length = d.count + (packets.length + 1) := by omega
      have whole := onward last final (continues.trans further)
      rw [List.flatMap_cons, ← List.append_assoc, List.length_cons, ← added] at whole
      rw [Service.audience_eq_of_engine? same]
      exact whole

theorem Surely.read
    {m : Machine}
    (read : Machine.read ⟨s, below, answer⟩ d = m)
    (onward : Surely calls below goal heard m) :
    Surely calls below goal heard ⟨s, .read d :: below, answer⟩ := by
  subst read
  exact .execute rfl (Nat.le_refl _) onward

/-- A dispatch reads on as long as something is supplied. -/
theorem isOver_of_readable
    (known : d.registered = s.service.contains d.registry d.handle)
    (readable : s.service.host.readable d.handle.fd = true)
    (tasks : List Task) :
    isOver ⟨s, tasks, answer⟩ d = false := by
  rw [isOver]
  split
  · rename_i registered
    rw [← known, registered]
    rfl
  · rw [readable]
    rfl

/-- A dispatch reads what is supplied next. -/
theorem exists_read_of_supplies
    {outcome : ReadOutcome} {outcomes : List ReadOutcome}
    (known : d.registered = s.service.contains d.registry d.handle)
    (supplies : s.Supplies calls d.handle.fd (outcome :: outcomes))
    (tasks : List Task) (answer : Answer) :
    ∃ host, isOver ⟨s, tasks, answer⟩ d = false ∧
      s.service.host.read d.handle.fd Record.bufferLength = (outcome, host) ∧
      (s.withHost host).Supplies calls d.handle.fd outcomes := by
  obtain ⟨readable, given, further⟩ := supplies s .refl
  exact ⟨_, isOver_of_readable known readable tasks, Prod.ext given rfl, further⟩

/-- The records of a buffer that is supplied are taken up next. -/
theorem surely_buffer
    {bytes : List UInt8} {outcomes : List ReadOutcome}
    (nonempty : bytes ≠ [])
    (known : d.registered = s.service.contains d.registry d.handle)
    (supplies : s.Supplies calls d.handle.fd (.ok bytes :: outcomes))
    (onward : ∀ host, (s.withHost host).Supplies calls d.handle.fd outcomes →
      Surely calls below goal heard
        ⟨s.withHost host, .records d (Record.decode bytes) :: below, answer⟩) :
    Surely calls below goal heard ⟨s, .read d :: below, answer⟩ := by
  obtain ⟨host, goesOn, given, further⟩ := exists_read_of_supplies known supplies below answer
  have read :
      Machine.read ⟨s, below, answer⟩ d =
        ⟨s.withHost host, .records d (Record.decode bytes) :: below, answer⟩ := by
    rw [Machine.read, goesOn, if_neg Bool.false_ne_true, given]
    cases bytes with
    | nil => contradiction
    | cons byte bytes => rfl
  exact .read read (onward host further)

/-- A dispatch takes up the records of a cut and is answered. -/
theorem surely_read
    {outcomes : List ReadOutcome} {packets : List Packet} {fault? : Option RecordFault}
    (cut : Cut outcomes packets fault?)
    (known : d.registered = s.service.contains d.registry d.handle)
    (confined : s.Confined calls)
    (supplies : s.Supplies calls d.handle.fd outcomes)
    (returned : ∀ last, (fault? = none → last.Supplies calls d.handle.fd []) →
      goal
        (heard ++ packets.flatMap fun packet =>
          s.service.audience d.registry d.handle packet.record)
        ⟨last, below, Dispatch.outcome (d.count + packets.length) fault?⟩) :
    Surely calls below goal heard ⟨s, .read d :: below, answer⟩ := by
  induction cut generalizing s d heard answer with
  | nil =>
      have ended : Machine.read ⟨s, below, answer⟩ d = ⟨s, below, .count d.count⟩ := by
        obtain ⟨-, nothing⟩ := supplies s .refl
        rw [Machine.read]
        split
        · rfl
        · rw [nothing]
          rfl
      have holds := returned s fun _ => supplies
      rw [List.flatMap_nil, List.append_nil] at holds
      exact .read ended (.reached holds)
  | interrupted cut ih =>
      obtain ⟨host, goesOn, given, further⟩ := exists_read_of_supplies known supplies below answer
      have again :
          Machine.read ⟨s, below, answer⟩ d = ⟨s.withHost host, .read d :: below, answer⟩ := by
        rw [Machine.read, goesOn, if_neg Bool.false_ne_true, given]
        rfl
      exact .read again (ih known confined further returned)
  | @buffer outcomes packets fault? first nonempty cut ih =>
      have something : first.flatMap Packet.bytes ≠ [] := by
        obtain ⟨packet, others, rfl⟩ := List.exists_cons_of_ne_nil nonempty
        exact List.append_ne_nil_of_left_ne_nil packet.bytes_ne_nil _
      apply surely_buffer something known supplies
      intro host further
      rw [(Packet.splits_flatMap first).decode_eq]
      refine surely_records (s := s.withHost host) first [] known confined ?_
      intro later reply continues
      have same := continues.stirred.engine?
      apply Surely.execute rfl (Nat.le_refl _)
      refine ih (d := { d with count := d.count + first.length }) ?_ continues.confined
        (further.stirred continues.stirred) ?_
      · rw [known, Service.contains, Service.contains, same]
        rfl
      intro last exhausted
      have holds := returned last exhausted
      rw [List.flatMap_append, ← List.append_assoc, List.length_append, ← Nat.add_assoc] at holds
      rw [Service.audience_eq_of_engine? same]
      exact holds
  | @malformed buffer rest first fault splits malformed outcomes =>
      have something : buffer ≠ [] := by
        intro empty
        have nothing := splits.joined
        rw [empty] at nothing
        rw [(List.append_eq_nil_iff.mp nothing.symm).2] at malformed
        cases malformed
      apply surely_buffer something known supplies
      intro host further
      rw [splits.decode_eq, Packet.items, malformed]
      refine surely_records (s := s.withHost host) first _ known confined ?_
      intro later reply continues
      apply Surely.execute rfl (Nat.le_refl _)
      exact .reached (returned later fun none => by cases none)

/-- A dispatch that begins in the first of some machines has come back after so many steps.  It has
taken up some records, and the next one is malformed or not there. -/
structure Delivers (states : Nat → Machine) (below : List Task) (registry : Nat) (handle : Handle)
    (records : List Record) (fault? : Option RecordFault) (count : Nat) : Prop where
  away : ∀ earlier < count, (states earlier).tasks ≠ below
  back : (states count).tasks = below
  answered : (states count).answer = Dispatch.outcome records.length fault?
  /-- Those are told whom the engine has to tell of each record in turn. -/
  told : ((List.range count).flatMap fun earlier => (states earlier).told) =
    records.flatMap ((states 0).session.service.audience registry handle)
  /-- The session has written down that they were told, and that nobody else was. -/
  logged : (states count).session.tellings =
    (states 0).session.tellings ++
      (records.flatMap ((states 0).session.service.audience registry handle)).flatMap fun target =>
        target.1.note target.2
  /-- Nobody is told where there is no engine. -/
  nobody : (states 0).session.service.engine? registry handle = none →
    ∀ earlier < count, (states earlier).told = []

section

variable {states : Nat → Machine} {registry : Nat} {handle : Handle}
  (begun : (states 0).tasks = (states 0).dispatching registry handle :: below)
  (steps : ∀ n, (states n).tasks ≠ below → Mild calls (states n) (states (n + 1)))
  (confined : (states 0).session.Confined calls)

include begun steps confined

/-- A dispatch delivers what a cut of its descriptor holds. -/
theorem exists_delivers
    {outcomes : List ReadOutcome} {packets : List Packet} {fault? : Option RecordFault}
    (cut : Cut outcomes packets fault?)
    (supplies : (states 0).session.Supplies calls handle.fd outcomes) :
    ∃ n,
      Delivers states below registry handle (packets.map (·.record)) fault? n ∧
        (fault? = none → (states n).session.Supplies calls handle.fd []) := by
  let audience : List (Subscriber × Payload) :=
    packets.flatMap fun packet =>
      (states 0).session.service.audience registry handle packet.record
  let goal (heard : List (Subscriber × Payload)) (m : Machine) : Prop :=
    m.tasks = below ∧ m.answer = Dispatch.outcome packets.length fault? ∧ heard = audience ∧
      (fault? = none → m.session.Supplies calls handle.fd [])
  have surely : Surely calls below goal [] (states 0) := by
    have shape :
        states 0 =
          ⟨(states 0).session, (states 0).dispatching registry handle :: below,
            (states 0).answer⟩ := by
      rw [← begun]
    rw [shape]
    apply surely_read cut rfl confined supplies
    intro last exhausted
    refine ⟨rfl, ?_, rfl, exhausted⟩
    rw [Nat.zero_add]
  obtain ⟨n, away, back, answered, told, exhausted⟩ := surely.exists_reached steps
  simp only [List.nil_append, Nat.zero_add] at away back answered told exhausted
  have whole :
      (packets.map (·.record)).flatMap ((states 0).session.service.audience registry handle) =
        audience :=
    List.flatMap_map ..
  have logged := tellings_of_steps fun earlier less => (steps earlier (away earlier less)).toStep
  rw [told] at logged
  refine ⟨n, ⟨away, back, ?_, ?_, ?_, ?_⟩, exhausted⟩
  · rw [List.length_map]
    exact answered
  · rw [whole]
    exact told
  · rw [whole]
    exact logged
  · intro absent earlier less
    have nobody : audience = [] := by
      apply List.flatMap_eq_nil_iff.mpr
      intro packet _
      rw [Service.audience, absent]
    rw [nobody] at told
    exact List.flatMap_eq_nil_iff.mp told earlier (List.mem_range.mpr less)

/--
Let a dispatch be next, on a descriptor that is the engine of a registry or is not, and let
subscribers make calls on files only.  Let the reads of the descriptor give some records, in buffers
at whose ends records end, with interrupted reads between them, whether what is read was fed or was
queued.  Then the dispatch comes back.  Those who were told are whom the engine has to tell of each
record in turn, and nobody where there is no engine; they are who is written down in the log of the
session.

If all the records are well-formed, the answer is how many they are, and nothing is left to be read.
If one is malformed, the records before it are taken up, and the answer is what is wrong with it.

A queue whose events fit into buffers, and that hears of no call of a subscriber, gives its events
in this way.
-/
theorem dispatch_independent_of_reads :
    (∀ outcomes packets fault?, Cut outcomes packets fault? →
      (states 0).session.Supplies calls handle.fd outcomes →
        ∃ n,
          Delivers states below registry handle (packets.map (·.record)) fault? n ∧
            (fault? = none → (states n).session.Supplies calls handle.fd [])) ∧
      ∀ id queue, 0 ≤ handle.fd →
        (states 0).session.service.host.queueAt? handle.fd = some (id, queue) →
          (∀ event ∈ queue.events, event.Fits) → (states 0).session.Unheard calls →
            ∃ n,
              Delivers states below registry handle (queue.events.map (·.record)) none n ∧
                (states n).session.Supplies calls handle.fd [] := by
  constructor
  · intro outcomes packets fault? cut supplies
    exact exists_delivers begun steps confined cut supplies
  · intro id queue number behind fits unheard
    obtain ⟨outcomes, packets, cut, same, supplies⟩ :=
      @Session.exists_cut_of_queue calls handle.fd number id queue.events fits
    obtain ⟨n, delivers, exhausted⟩ :=
      exists_delivers begun steps confined cut (supplies _ queue behind rfl unheard)
    rw [same] at delivers
    exact ⟨n, delivers, exhausted rfl⟩

end

/-! ## Records in two buffers -/

/-- What reads give that cut three records into two buffers, the second read being interrupted. -/
def twoBuffers : List ReadOutcome :=
  let changed : Packet := ⟨1, 0x2, 0, [], by decide⟩
  let closed : Packet := ⟨1, 0x8, 0, [], by decide⟩
  [.ok ([changed, closed].flatMap Packet.bytes), .error .interrupted,
    .ok ([changed].flatMap Packet.bytes)]

/-- An engine whose descriptor gives that.  One of two subscribers writes a file when it is told. -/
def suppliedInTwo : Machine where
  session :=
    { service :=
        { host :=
            { Host.fresh (.increasing 10) with
              descriptors := [(9, .fed ⟨twoBuffers, false, .waiting⟩ none)] }
          release := ""
          registries :=
            [{ root := ⟨[]⟩
               probe := .host
               engines :=
                [(⟨9⟩,
                  { queue := 0
                    table := ⟨[⟨⟨1⟩, Mask.modify, .labelled "a", .number 1⟩,
                      ⟨⟨1⟩, Mask.events, .labelled "b", .number 2⟩]⟩
                    source := none })] }]
          loops := [] }
      views := [0]
      engines := [(0, ⟨9⟩)]
      queues := []
      behaviours := [("a", ⟨[.call (.file (.write ⟨[]⟩ ""))], 1⟩)]
      log := []
      printed := [] }
  tasks := [.read ⟨0, ⟨9⟩, true, 0⟩]
  answer := .done

theorem dispatch_of_two_buffers :
    ∃ n,
      (onward^[n] suppliedInTwo).tasks = [] ∧ (onward^[n] suppliedInTwo).answer = .count 3 ∧
        ((List.range n).flatMap fun earlier => (onward^[earlier] suppliedInTwo).told) =
          [(.labelled "a", .number 1), (.labelled "b", .number 2), (.labelled "b", .number 2),
            (.labelled "a", .number 1), (.labelled "b", .number 2)] ∧
        (onward^[n] suppliedInTwo).session.tellings =
          [.told "a" (.number 1), .told "b" (.number 2), .told "b" (.number 2),
            .told "a" (.number 1), .told "b" (.number 2)] := by
  have cut : Cut twoBuffers _ none :=
    .buffer (List.cons_ne_nil _ _)
      (.interrupted (.buffer (List.cons_ne_nil _ _) .nil))
  have small (bytes : List UInt8) (member : .ok bytes ∈ twoBuffers) :
      bytes.length ≤ Record.bufferLength := by
    simp only [twoBuffers, List.mem_cons] at member
    rcases member with same | same | same | none
    · cases same
      decide
    · cases same
    · cases same
      decide
    · cases none
  have confined : suppliedInTwo.session.Confined fun _ => True := by
    intro label behaviour found action member
    cases List.mem_singleton.mp (Assoc.mem_of_get? found)
    exact ⟨_, trivial, List.mem_singleton.mp member⟩
  have steps : ∀ n, (onward^[n] suppliedInTwo).tasks ≠ [] →
      Mild (fun _ => True) (onward^[n] suppliedInTwo) (onward^[n + 1] suppliedInTwo) := by
    intro n busy
    rw [Function.iterate_succ_apply']
    exact .scripted (step_onward busy)
  obtain ⟨whole, -⟩ :=
    @dispatch_independent_of_reads (fun _ => True) [] (onward^[·] suppliedInTwo) 0 ⟨9⟩ rfl steps
      confined
  obtain ⟨n, delivers, -⟩ :=
    whole _ _ _ cut (Session.supplies_of_fed (by decide) rfl small)
  exact ⟨n, delivers.back, delivers.answered, delivers.told, delivers.logged⟩

end Machine

end MarkerWatch
