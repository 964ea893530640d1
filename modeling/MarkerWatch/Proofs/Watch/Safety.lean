import MarkerWatch.Proofs.Watch.TracedKernel

/-!
# Watch tables over kernels that may do anything

A kernel may fail any call and may give any id for any path, whatever it was asked before.  A watch
table does not rely on it: what becomes of the table is one of three things, which `Turns` lists,
and in none of them does the kernel choose more than the id of the watch.

It follows that no subscriber is registered twice on one watch, that every subscription asks for
something that may be asked for, and hence that no mask that is put on a watch is empty.
-/

namespace MarkerWatch

namespace Mask

/-- The kinds that only the kernel reports. -/
def reported : Mask :=
  unmount ∪ queueOverflow ∪ ignored ∪ isDir

/-- No kind of event is known in a mask of reports and of bits without a name. -/
theorem getLsbD_events_of_reported
    {mask : Mask}
    (reports : reported.contains mask.known = true)
    {bit : Nat}
    (set : mask.bits.getLsbD bit = true) :
    events.bits.getLsbD bit = false := by
  by_contra isEvent
  rw [Bool.not_eq_false] at isEvent
  have isNamed : named.bits.getLsbD bit = true :=
    (contains_iff named events).mp (by decide) bit isEvent
  have isReport : reported.bits.getLsbD bit = true := by
    apply (contains_iff reported mask.known).mp reports
    rw [known, getLsbD_inter, set, isNamed]
    rfl
  have apart : events.intersects reported = false := by decide
  rw [← Bool.not_eq_true, intersects_iff] at apart
  exact apart ⟨bit, isEvent, isReport⟩

end Mask

namespace WatchTable

variable {κ σ δ : Type}

/-- No two subscriptions share both the watch and the subscriber. -/
def Distinct (table : WatchTable σ δ) : Prop :=
  (table.entries.map fun entry => (entry.watch, entry.subscriber)).Nodup

theorem distinct_empty : (empty : WatchTable σ δ).Distinct :=
  List.nodup_nil

/-! ## Who is told -/

/-- On one watch the subscriber alone tells subscriptions apart. -/
theorem Distinct.nodup_on
    {table : WatchTable σ δ}
    (distinct : table.Distinct)
    (watch : WatchId) :
    ((table.on watch).map (·.subscriber)).Nodup := by
  apply List.Nodup.of_map fun who => (watch, who)
  have sameKeys :
      ((table.on watch).map (·.subscriber)).map (fun who => (watch, who)) =
        (table.on watch).map fun entry => (entry.watch, entry.subscriber) := by
    rw [List.map_map]
    apply List.map_congr_left
    intro entry member
    rw [((mem_on_iff table watch entry).mp member).2]
    rfl
  rw [sameKeys]
  exact distinct.sublist (List.filter_sublist.map _)

/-- Nobody is told twice of one event. -/
theorem Distinct.nodup_matching
    {table : WatchTable σ δ}
    (distinct : table.Distinct)
    (watch : WatchId) (mask : Mask) :
    ((table.matching watch mask).map (·.1)).Nodup := by
  have told :
      (table.matching watch mask).map (·.1) =
        ((table.on watch).filter (·.mask.intersects mask)).map (·.subscriber) := by
    rw [matching, on, List.filter_filter, List.map_map]
    simp only [Bool.decide_and, Bool.decide_eq_true, Bool.and_comm]
    rfl
  rw [told]
  exact (distinct.nodup_on watch).sublist (List.filter_sublist.map _)

/-- Nobody is told of what only the kernel reports. -/
theorem Subscribable.matching_of_reported
    {table : WatchTable σ δ}
    (subscribable : table.Subscribable)
    (watch : WatchId)
    {mask : Mask}
    (reports : Mask.reported.contains mask.known = true) :
    table.matching watch mask = [] := by
  rw [matching, List.map_eq_nil_iff, List.filter_eq_nil_iff]
  intro entry member
  rw [decide_eq_true_eq]
  rintro ⟨-, shared⟩
  rw [Mask.intersects_iff] at shared
  obtain ⟨bit, asked, set⟩ := shared
  have isEvent :=
    (Mask.contains_iff _ _).mp (Mask.contains_events (subscribable entry member)) bit asked
  rw [Mask.getLsbD_events_of_reported reports set] at isEvent
  contradiction

/-! ## What becomes of a table -/

variable [DecidableEq σ]

/-- What may become of a table by a request, whatever the kernel answers. -/
inductive Turns (table : WatchTable σ δ) :
    WatchRequest σ δ → Except Fault (WatchAnswer WatchId) → WatchTable σ δ → Prop
  | refused (request : WatchRequest σ δ) (fault : Fault) : Turns table request (.error fault) table
  | subscribed (path : Path) {who : σ} (data : δ) {mask : Mask} {watch : WatchId}
      (allowed : mask.subscribable = true) (new : table.registered watch who = false) :
      Turns table (.subscribe path who data mask) (.ok (.watching watch))
        (table.add ⟨watch, mask, who, data⟩)
  | ended (path : Path) {who : Option σ} {watch : WatchId}
      (something : table.entries.filter (selects watch who) ≠ []) :
      Turns table (.unsubscribe path who)
        (.ok (.ended (table.entries.filter (selects watch who)).length)) (table.without watch who)

/-- The kernel decides whether a request is granted, and on which watch, but nothing else. -/
theorem turns_serve [WatchKernel κ]
    (table : WatchTable σ δ) (kernel : κ) (request : WatchRequest σ δ) :
    table.Turns request (table.serve kernel request).answer (table.serve kernel request).table := by
  cases request with
  | subscribe path who data mask =>
      show table.Turns _ ((table.subscribe kernel path who data mask).1.map .watching)
        (table.subscribe kernel path who data mask).2.1
      cases allowed : mask.subscribable with
      | false =>
          rw [subscribe_of_not_subscribable _ _ _ _ _ allowed]
          exact .refused _ _
      | true =>
          rw [subscribe, if_pos allowed]
          rcases WatchKernel.addWatch kernel path Mask.probe with ⟨fault | watch, probed⟩
          · exact .refused _ fault
          · dsimp only
            split
            · exact .refused _ _
            · rename_i new
              split
              · exact .refused _ _
              · exact .subscribed path data allowed (by simpa using new)
  | unsubscribe path who =>
      show table.Turns _ ((table.unsubscribe kernel path who).1.map .ended)
        (table.unsubscribe kernel path who).2.1
      rw [unsubscribe]
      rcases WatchKernel.addWatch kernel path Mask.probe with ⟨fault | watch, probed⟩
      · exact .refused _ fault
      · dsimp only
        split
        · exact .refused _ _
        · split
          · exact .refused _ _
          · rename_i something
            exact .ended path (by simpa using something)

namespace Turns

variable {table next : WatchTable σ δ} {request : WatchRequest σ δ}
  {answer : Except Fault (WatchAnswer WatchId)}

theorem distinct
    (turns : table.Turns request answer next)
    (distinct : table.Distinct) :
    next.Distinct := by
  cases turns with
  | refused => exact distinct
  | @subscribed path who data mask watch allowed new =>
      rw [Distinct, add, List.map_append, List.nodup_append]
      refine ⟨distinct, List.nodup_singleton _, ?_⟩
      rintro key old _ fresh rfl
      rw [List.map_singleton, List.mem_singleton] at fresh
      obtain ⟨entry, member, same⟩ := List.mem_map.mp old
      rw [fresh, Prod.mk.injEq] at same
      have registered := (registered_iff table watch who).mpr ⟨entry, member, same⟩
      rw [new] at registered
      contradiction
  | ended path something => exact distinct.sublist (List.filter_sublist.map _)

theorem subscribable
    (turns : table.Turns request answer next)
    (subscribable : table.Subscribable) :
    next.Subscribable := by
  cases turns with
  | refused => exact subscribable
  | subscribed path data allowed new => exact subscribable.add allowed
  | ended path something => exact subscribable.without _ _

/-- A request that ends subscriptions ends as many as it says, and leaves the others in order. -/
theorem ended_count
    {count : Nat}
    (turns : table.Turns request (.ok (.ended count)) next) :
    1 ≤ count ∧ next.entries.Sublist table.entries ∧
      next.entries.length + count = table.entries.length := by
  cases turns with
  | @ended path who watch something =>
      refine ⟨List.length_pos_iff.mpr something, List.filter_sublist, ?_⟩
      have parts := List.length_eq_length_filter_add (l := table.entries) (selects watch who)
      show (table.entries.filter (!selects watch who ·)).length + _ = _
      omega

end Turns

/-! ## Requests that are granted -/

theorem subscribe_of_serve [WatchKernel κ]
    {table : WatchTable σ δ} {kernel : κ} {path : Path} {who : σ} {data : δ} {mask : Mask}
    {answer : WatchAnswer WatchId}
    (granted : (table.serve kernel (.subscribe path who data mask)).answer = .ok answer) :
    ∃ watch, answer = .watching watch ∧
      table.subscribe kernel path who data mask =
        (.ok watch, (table.serve kernel (.subscribe path who data mask)).table,
          (table.serve kernel (.subscribe path who data mask)).kernel) := by
  simp only [serve] at granted ⊢
  generalize table.subscribe kernel path who data mask = outcome at granted ⊢
  rcases outcome with ⟨fault | watch, next, last⟩
  · cases granted
  · cases granted
    exact ⟨watch, rfl, rfl⟩

theorem unsubscribe_of_serve [WatchKernel κ]
    {table : WatchTable σ δ} {kernel : κ} {path : Path} {who : Option σ}
    {answer : WatchAnswer WatchId}
    (granted : (table.serve kernel (.unsubscribe path who)).answer = .ok answer) :
    ∃ count, answer = .ended count ∧
      table.unsubscribe kernel path who =
        (.ok count, (table.serve kernel (.unsubscribe path who)).table,
          (table.serve kernel (.unsubscribe path who)).kernel) := by
  simp only [serve] at granted ⊢
  generalize table.unsubscribe kernel path who = outcome at granted ⊢
  rcases outcome with ⟨fault | count, next, last⟩
  · cases granted
  · cases granted
    exact ⟨count, rfl, rfl⟩

/-- A subscription that is granted is on the watch that the probe found, and the call after that
puts what the next table asks of the watch on the path. -/
theorem subscribe_granted [WatchKernel κ]
    {table next : WatchTable σ δ} {kernel last : κ} {path : Path} {who : σ} {data : δ}
    {mask : Mask} {watch : WatchId}
    (granted : table.subscribe kernel path who data mask = (.ok watch, next, last)) :
    mask.subscribable = true ∧
      next = table.add ⟨watch, mask, who, data⟩ ∧
      ∃ probed again,
        WatchKernel.addWatch kernel path Mask.probe = (.ok watch, probed) ∧
          WatchKernel.addWatch probed path (next.aggregate watch) = (.ok again, last) := by
  rw [subscribe] at granted
  split at granted
  · rename_i allowed
    split at granted
    · cases granted
    · rename_i found probed answered
      split at granted
      · cases granted
      · split at granted
        · cases granted
        · rename_i installed
          cases granted
          have union : (table.add ⟨watch, mask, who, data⟩).aggregate watch =
              table.aggregate watch ∪ mask := by
            rw [aggregate_add, if_pos rfl]
          have nonempty : (table.aggregate watch ∪ mask).isEmpty = false :=
            Mask.isEmpty_union_of_right (Mask.isEmpty_of_subscribable allowed)
          simp only [install, nonempty, Bool.false_eq_true, if_false] at installed
          split at installed
          · rename_i again settled added
            cases installed
            refine ⟨allowed, rfl, probed, again, answered, ?_⟩
            exact union ▸ added
          · cases installed
  · cases granted

/-- Subscriptions that are ended are on the watch that the probe found. -/
theorem unsubscribe_granted [WatchKernel κ]
    {table next : WatchTable σ δ} {kernel last : κ} {path : Path} {who : Option σ} {count : Nat}
    (granted : table.unsubscribe kernel path who = (.ok count, next, last)) :
    ∃ watch probed,
      WatchKernel.addWatch kernel path Mask.probe = (.ok watch, probed) ∧
        next = table.without watch who ∧ table.entries.filter (selects watch who) ≠ [] := by
  rw [unsubscribe] at granted
  split at granted
  · cases granted
  · rename_i watch probed answered
    dsimp only at granted
    split at granted
    · cases granted
    · split at granted
      · cases granted
      · rename_i something
        cases granted
        exact ⟨watch, probed, answered, rfl, by simpa using something⟩

/-! ## What is asked of the kernel -/

section

variable [WatchKernel κ] {kept : κ → Prop}
  (adds : ∀ kernel path mask, mask.isEmpty = false → kept kernel →
    kept (WatchKernel.addWatch kernel path mask).2)
  (removes : ∀ kernel watch, kept kernel → kept (WatchKernel.removeWatch kernel watch).2)

include adds removes

theorem settle_keeps
    {kernel : κ} (holds : kept kernel) (path : Path) (watch : WatchId) (mask : Mask) :
    kept (WatchKernel.settle kernel path watch mask).2 := by
  rw [WatchKernel.settle]
  split
  · exact removes kernel watch holds
  · rename_i something
    exact adds kernel path mask (by simpa using something) holds

/-- What removals keep, and additions of masks that are not empty, is kept by every request. -/
theorem Subscribable.serve_keeps
    {table : WatchTable σ δ}
    (subscribable : table.Subscribable)
    {kernel : κ} (holds : kept kernel)
    (request : WatchRequest σ δ) :
    kept (table.serve kernel request).kernel := by
  have settles {kernel : κ} (holds : kept kernel) (path : Path) (watch : WatchId) (mask : Mask) :
      kept (WatchKernel.settle kernel path watch mask).2 :=
    settle_keeps adds removes holds path watch mask
  have probed (path : Path) : kept (WatchKernel.addWatch kernel path Mask.probe).2 :=
    adds kernel path Mask.probe (by decide) holds
  cases request with
  | subscribe path who data mask =>
      cases allowed : mask.subscribable with
      | false =>
          rw [serve_subscribe_of_refused _ _ _ _ _ allowed]
          exact holds
      | true =>
          have left := probed path
          simp only [serve, subscribable.subscribe_eq kernel path who data allowed]
          generalize WatchKernel.addWatch kernel path Mask.probe = outcome at left ⊢
          rcases outcome with ⟨fault | watch, probed⟩
          · exact left
          · dsimp only at left ⊢
            split
            · exact settles left path watch _
            · have settled := settles left path watch
                ((table.add ⟨watch, mask, who, data⟩).aggregate watch)
              generalize WatchKernel.settle probed path watch _ = outcome at settled ⊢
              rcases outcome with ⟨fault | granted, after⟩
              · exact settles settled path watch _
              · exact settled
  | unsubscribe path who =>
      have left := probed path
      simp only [serve, subscribable.unsubscribe_eq kernel path who]
      generalize WatchKernel.addWatch kernel path Mask.probe = outcome at left ⊢
      rcases outcome with ⟨fault | watch, probed⟩
      · exact left
      · have settled := settles left path watch ((table.without watch who).aggregate watch)
        dsimp only at settled ⊢
        generalize WatchKernel.settle probed path watch _ = outcome at settled ⊢
        rcases outcome with ⟨fault | granted, after⟩
        · exact settles settled path watch _
        · dsimp only
          split <;> exact settled

end

/-- The calls that were written down put no empty mask on a watch. -/
def NoEmptyMask (traced : TracedKernel κ) : Prop :=
  ∀ path mask answer left, (.add path mask answer, left) ∈ traced.trace → mask.isEmpty = false

namespace NoEmptyMask

variable [WatchKernel κ] {traced : TracedKernel κ}

theorem addWatch
    (kept : NoEmptyMask traced)
    (path : Path) {mask : Mask}
    (something : mask.isEmpty = false) :
    NoEmptyMask (WatchKernel.addWatch traced path mask).2 := by
  intro path' mask' answer left member
  rcases List.mem_append.mp member with old | new
  · exact kept path' mask' answer left old
  · cases List.mem_singleton.mp new
    exact something

theorem removeWatch
    (kept : NoEmptyMask traced)
    (watch : WatchId) :
    NoEmptyMask (WatchKernel.removeWatch traced watch).2 := by
  intro path mask answer left member
  rcases List.mem_append.mp member with old | new
  · exact kept path mask answer left old
  · cases List.mem_singleton.mp new

end NoEmptyMask

omit [DecidableEq σ] in
theorem Subscribable.isEmpty_aggregate_iff_forall
    {table : WatchTable σ δ}
    (subscribable : table.Subscribable)
    (watch : WatchId) :
    (table.aggregate watch).isEmpty = true ↔ ∀ entry ∈ table.entries, entry.watch ≠ watch := by
  rw [subscribable.isEmpty_aggregate_iff, on, List.filter_eq_nil_iff]
  simp

/-! ## Runs -/

variable [WatchKernel κ]

/-- The table and the kernel after requests were served one after another. -/
def serveAll (table : WatchTable σ δ) (kernel : κ) :
    List (WatchRequest σ δ) → WatchTable σ δ × κ
  | [] => (table, kernel)
  | request :: rest =>
    let outcome := table.serve kernel request
    outcome.table.serveAll outcome.kernel rest

/-- What is known of a table and of a trace after any requests. -/
structure Safe (table : WatchTable σ δ) (traced : TracedKernel κ) : Prop where
  distinct : table.Distinct
  subscribable : table.Subscribable
  noEmptyMask : NoEmptyMask traced

omit [DecidableEq σ] [WatchKernel κ] in
theorem safe_start (kernel : κ) : Safe (empty : WatchTable σ δ) (TracedKernel.start kernel) where
  distinct := distinct_empty
  subscribable := subscribable_empty
  noEmptyMask := by
    intro path mask answer left member
    cases member

theorem Safe.serve
    {table : WatchTable σ δ} {traced : TracedKernel κ}
    (safe : Safe table traced)
    (request : WatchRequest σ δ) :
    Safe (table.serve traced request).table (table.serve traced request).kernel where
  distinct := (turns_serve table traced request).distinct safe.distinct
  subscribable := (turns_serve table traced request).subscribable safe.subscribable
  noEmptyMask :=
    safe.subscribable.serve_keeps (fun _ path _ something kept => kept.addWatch path something)
      (fun _ watch kept => kept.removeWatch watch) safe.noEmptyMask request

/-- Any requests leave a table and a trace safe, and the trace is all that tracing adds. -/
theorem Safe.serveAll
    {table : WatchTable σ δ} {traced : TracedKernel κ}
    (safe : Safe table traced)
    (requests : List (WatchRequest σ δ)) :
    Safe (table.serveAll traced requests).1 (table.serveAll traced requests).2 ∧
      ((table.serveAll traced requests).1, (table.serveAll traced requests).2.kernel) =
        table.serveAll traced.kernel requests := by
  induction requests generalizing table traced with
  | nil => exact ⟨safe, rfl⟩
  | cons request rest ih =>
      have untraced := safe.subscribable.serve_untraced traced request
      have later := ih (safe.serve request)
      rw [WatchTable.serveAll, WatchTable.serveAll, ← untraced]
      exact later

/--
Let a table without subscriptions serve any requests over any kernel, which may fail any call and
give any id.  Then no two subscriptions share both watch and subscriber, every mask is one that may
be asked for, nothing is asked of a watch exactly when nobody is on it, and no call has put an empty
mask on a watch.  Whatever is requested next, a refusal leaves the table as it was, a subscription
adds itself at the end under the id that is answered, and subscriptions that are ended are as many
as is answered, at least one, the others staying in order.  So no subscriber is told twice of one
event, and none is told of what only the kernel reports or of bits without a name.
-/
theorem safe_over_any_kernel (kernel : κ) (requests : List (WatchRequest σ δ)) :
    let run := (empty : WatchTable σ δ).serveAll (TracedKernel.start kernel) requests
    (run.1, run.2.kernel) = (empty : WatchTable σ δ).serveAll kernel requests ∧
      (run.1.entries.map fun entry => (entry.watch, entry.subscriber)).Nodup ∧
      (∀ entry ∈ run.1.entries,
        entry.mask.isEmpty = false ∧ Mask.events.contains entry.mask = true) ∧
      (∀ watch, (run.1.aggregate watch).isEmpty = true ↔
        ∀ entry ∈ run.1.entries, entry.watch ≠ watch) ∧
      (∀ path mask answer left,
        (.add path mask answer, left) ∈ run.2.trace → mask.isEmpty = false) ∧
      (∀ request,
        let outcome := run.1.serve run.2.kernel request
        run.1.Turns request outcome.answer outcome.table ∧
          ∀ count, outcome.answer = .ok (.ended count) →
            1 ≤ count ∧ outcome.table.entries.Sublist run.1.entries ∧
              outcome.table.entries.length + count = run.1.entries.length) ∧
      ∀ watch mask,
        ((run.1.matching watch mask).map (·.1)).Nodup ∧
          (Mask.reported.contains mask.known = true → run.1.matching watch mask = []) := by
  intro run
  obtain ⟨safe, untraced⟩ := (safe_start kernel).serveAll requests
  refine ⟨untraced, safe.distinct, ?_, ?_, safe.noEmptyMask, ?_, ?_⟩
  · intro entry member
    have allowed := safe.subscribable entry member
    exact ⟨Mask.isEmpty_of_subscribable allowed, Mask.contains_events allowed⟩
  · exact safe.subscribable.isEmpty_aggregate_iff_forall
  · intro request outcome
    have turns := turns_serve run.1 run.2.kernel request
    refine ⟨turns, ?_⟩
    intro count answered
    have ended : run.1.Turns request (.ok (.ended count)) outcome.table := answered ▸ turns
    exact ended.ended_count
  · intro watch mask
    exact ⟨safe.distinct.nodup_matching watch mask,
      safe.subscribable.matching_of_reported watch⟩

end WatchTable

end MarkerWatch
