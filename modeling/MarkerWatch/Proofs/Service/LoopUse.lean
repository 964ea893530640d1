import MarkerWatch.Proofs.Loop.Run
import MarkerWatch.Proofs.Service.Registration

/-!
# How a service uses its loops

A service cancels the registrations that its engines know, and every number that an engine knows was
given out by its loop.  This does not depend on which numbers descriptors get.

Seen from one loop, attaching an engine registers its callback, and cancels the registration at once
if it was made in vain.  Closing and detaching an engine cancels at most.  No other call on a service
touches a loop, except those that take a callback out and put it back.
-/

namespace MarkerWatch.Service

open ReadyLoop (Trace Pending Unreturning)

variable {s after : Service} {i : Nat}

/-! ## Numbers that were given out -/

/-- What an engine knows of a loop is a number that the loop has given out. -/
def Issued (s : Service) : Prop :=
  ∀ r h source, s.driver? r h = some source →
    0 < source.id ∧ ∃ l, s.loops[source.loop]? = some l ∧ source.id ≤ l.lastId

/-- Loops stay, and give out numbers upwards. -/
def LoopsGrow (s after : Service) : Prop :=
  ∀ (loop : Nat) (l : ReadyLoop Ready), s.loops[loop]? = some l →
    ∃ later : ReadyLoop Ready, after.loops[loop]? = some later ∧ l.lastId ≤ later.lastId

/-- Loops that are left alone stay as they are. -/
theorem LoopsGrow.of_same (same : after.loops = s.loops) : LoopsGrow s after := by
  intro loop l found
  exact ⟨l, by rwa [same], Nat.le_refl _⟩

/-- A loop that is changed may have given out further numbers, and the others stay. -/
theorem LoopsGrow.modify
    (changed : Nat) {change : ReadyLoop Ready → ReadyLoop Ready}
    (grows : ∀ l, l.lastId ≤ (change l).lastId) :
    LoopsGrow s { s with loops := s.loops.modify changed change } := by
  intro loop l found
  refine ⟨if changed = loop then change l else l, ?_, ?_⟩
  · dsimp only
    rw [List.getElem?_modify, found]
    rfl
  · split
    · exact grows l
    · exact Nat.le_refl _

theorem LoopsGrow.set
    {changed : Nat} {old new : ReadyLoop Ready}
    (present : s.loops[changed]? = some old)
    (grows : old.lastId ≤ new.lastId) :
    LoopsGrow s { s with loops := s.loops.set changed new } := by
  intro loop l found
  dsimp only
  rw [List.getElem?_set]
  split
  · rename_i same
    subst same
    rw [present] at found
    obtain rfl := Option.some.inj found
    rw [if_pos (List.getElem?_eq_some_iff.mp present).1]
    exact ⟨new, rfl, grows⟩
  · exact ⟨l, found, Nat.le_refl _⟩

/-- Cancelling a registration gives out no number. -/
theorem LoopsGrow.cancel (source : Option LoopSource) : LoopsGrow s (s.cancel source) := by
  cases source with
  | none => exact .of_same rfl
  | some source => exact .modify source.loop fun l => Nat.le_of_eq (l.lastId_cancel source.id).symm

namespace Issued

/-- What engines know stays given out while they learn nothing new. -/
theorem mono
    (issued : s.Issued)
    (known : ∀ r h source, after.driver? r h = some source → s.driver? r h = some source)
    (grow : LoopsGrow s after) :
    after.Issued := by
  intro r h source driven
  obtain ⟨positive, l, found, bound⟩ := issued r h source (known r h source driven)
  obtain ⟨later, foundLater, grows⟩ := grow source.loop l found
  exact ⟨positive, later, foundLater, Nat.le_trans bound grows⟩

/-- An engine may be replaced by one that knows no more. -/
theorem replace
    (issued : s.Issued)
    {r : Nat} {h : Handle} {engine : Option Engine}
    (replaces : Replaces r h engine s after)
    (known : ∀ source, engine.bind (·.source) = some source → s.driver? r h = some source)
    (grow : LoopsGrow s after) :
    after.Issued := by
  refine issued.mono ?_ grow
  intro r' h' source driven
  rw [replaces.driver] at driven
  split at driven
  · rename_i same
    obtain ⟨rfl, rfl⟩ := same
    exact known source driven
  · exact driven

/-- Another table for an engine says nothing of its loop. -/
theorem retables
    (issued : s.Issued)
    {r : Nat} {h : Handle}
    (retables : Retables r h s after) :
    after.Issued := by
  rcases retables with rfl | ⟨e, table, queues, found, rfl⟩
  · exact issued
  · refine issued.replace
      (replaces_setEngine_withHost (lt_of_engine? found) { s.host with queues } { e with table }) ?_
      (.of_same rfl)
    intro source known
    rwa [driver?_of_engine? found]

theorem cancel
    (issued : s.Issued) (source : Option LoopSource) :
    (s.cancel source).Issued := by
  refine issued.mono ?_ (.cancel source)
  intro r h source' driven
  rwa [driver?, engine?_cancel] at driven

/-- An engine that is closed knows nothing any more. -/
theorem close (issued : s.Issued) (r : Nat) (h : Handle) : (s.close r h).Issued := by
  rw [Service.close]
  split
  · exact issued
  · have erased : (s.mapEngines r (Assoc.erase · h)).Issued := by
      refine issued.replace replaces_erase ?_ (.of_same rfl)
      intro source impossible
      cases impossible
    exact erased.cancel _

/-- An engine that is detached forgets its number. -/
theorem detach (issued : s.Issued) (r : Nat) (h : Handle) : (s.detach r h).2.Issued := by
  rw [Service.detach]
  split
  · exact issued
  · rename_i e found
    have released : (s.setEngine r h { e with source := none }).Issued := by
      refine issued.replace (replaces_setEngine (lt_of_engine? found) _) ?_ (.of_same rfl)
      intro source impossible
      cases impossible
    exact released.cancel _

/-- An engine that is attached gets to know the latest number of its loop. -/
theorem join (issued : s.Issued) (r : Nat) (h : Handle) (loop : Nat) :
    (s.join r h loop).2.Issued := by
  rw [Service.join]
  split
  · exact issued
  · rename_i l present
    have registered :
        ({ s with loops := s.loops.set loop (l.register h.fd ⟨r, h⟩).2 } : Service).Issued :=
      issued.mono (fun _ _ _ driven => driven) (.set present (Nat.le_succ _))
    dsimp only
    split
    · exact registered.cancel _
    · rename_i e found
      split
      · exact registered.cancel _
      · intro r' h' source driven
        have replaces := replaces_setEngine (h := h) (lt_of_engine? found)
          { e with source := some ⟨loop, l.lastId + 1⟩ }
        have driver := (replaces.driver r' h').symm.trans driven
        split at driver
        · obtain rfl := Option.some.inj driver
          refine ⟨Nat.succ_pos _, (l.register h.fd ⟨r, h⟩).2, ?_, Nat.le_refl _⟩
          exact List.getElem?_set_self (List.getElem?_eq_some_iff.mp present).1
        · exact registered r' h' source driver

/-- Every step of a service keeps to numbers that were given out. -/
theorem step
    (step : s.Step after)
    (issued : s.Issued) :
    after.Issued := by
  cases step with
  | host step => exact issued.mono (fun _ _ _ driven => driven) (.of_same rfl)
  | addRegistry root probe =>
      refine issued.mono ?_ (.of_same rfl)
      intro r h source driven
      rwa [driver?, engine?_addRegistry] at driven
  | addLoop kind =>
      refine issued.mono (fun _ _ _ driven => driven) ?_
      intro loop l found
      refine ⟨l, ?_, Nat.le_refl _⟩
      dsimp only
      rwa [List.getElem?_append_left (List.getElem?_eq_some_iff.mp found).1]
  | init r exhausted =>
      have opens : Opens r s (s.init r exhausted).2 := opens_init exhausted
      generalize (s.init r exhausted).2 = after at opens ⊢
      cases opens with
      | refused numbers => exact issued.mono (fun _ _ _ driven => driven) (.of_same rfl)
      | opened present numbers =>
          refine issued.replace (replaces_opened present _ _) ?_ (.of_same rfl)
          intro source impossible
          cases impossible
  | close r h => exact issued.close r h
  | subscribe r h path who data mask => exact issued.retables (retables_subscribe path who data mask)
  | unsubscribe r h path who => exact issued.retables (retables_unsubscribe path who)
  | join r h loop => exact issued.join r h loop
  | detach r h => exact issued.detach r h
  | @take loop id callback taken found =>
      obtain ⟨l, present, held⟩ := Option.bind_eq_some_iff.mp found
      obtain ⟨-, rfl⟩ := ReadyLoop.take?_eq_some_iff.mp held
      exact issued.mono (fun _ _ _ driven => driven) (.set present (Nat.le_refl _))
  | finish loop id callback =>
      refine issued.mono (fun _ _ _ driven => driven) (.modify loop ?_)
      exact fun l => Nat.le_of_eq (l.lastId_finish id callback).symm

end Issued

/-- A service without registries has no engine that could know a number. -/
theorem issued_fresh (numbering : Numbering) (loops : List LoopKind) :
    (fresh numbering loops).Issued := by
  intro r h source driven
  cases driven

/-! ## What calls do to a loop -/

/-- One service after another: a loop is left alone, or registrations with it are cancelled. -/
structure CancelsAtMost (i : Nat) (s after : Service) : Prop where
  steps : Steps s after
  trace : s.Issued → ∀ l, s.loops[i]? = some l →
    ∃ later events, after.loops[i]? = some later ∧ Unreturning events ∧
      ∀ pending : List (Pending Ready), Trace ⟨l, pending⟩ events ⟨later, pending⟩

namespace CancelsAtMost

/-- A loop that is left alone takes no step. -/
theorem of_same
    (steps : Steps s after)
    (same : after.loops[i]? = s.loops[i]?) :
    CancelsAtMost i s after where
  steps := steps
  trace := by
    intro issued l found
    exact ⟨l, [], by rwa [same], ReadyLoop.unreturning_nil, fun pending => .nil⟩

theorem refl (i : Nat) (s : Service) : CancelsAtMost i s s :=
  .of_same .refl rfl

end CancelsAtMost

/-- Cancelling changes the loop that the number belongs to, and no other one. -/
theorem getElem?_cancel (source : LoopSource) (i : Nat) :
    (s.cancel (some source)).loops[i]? =
      s.loops[i]?.map fun l => if source.loop = i then l.cancel source.id else l := by
  rw [cancel, List.getElem?_modify]
  rfl

/-- A number that was given out may be cancelled. -/
theorem trace_cancel
    {l : ReadyLoop Ready}
    (found : s.loops[i]? = some l)
    (source : Option LoopSource)
    (known : ∀ known, source = some known →
      0 < known.id ∧ ∃ l, s.loops[known.loop]? = some l ∧ known.id ≤ l.lastId) :
    ∃ later events, (s.cancel source).loops[i]? = some later ∧ Unreturning events ∧
      ∀ pending : List (Pending Ready), Trace ⟨l, pending⟩ events ⟨later, pending⟩ := by
  cases source with
  | none => exact ⟨l, [], found, ReadyLoop.unreturning_nil, fun pending => .nil⟩
  | some source =>
      obtain ⟨positive, l', found', bound⟩ := known source rfl
      rw [getElem?_cancel, found, Option.map_some]
      by_cases here : source.loop = i
      · rw [here, found] at found'
        obtain rfl := Option.some.inj found'
        rw [if_pos here]
        exact ⟨_, _, rfl, by simp [Unreturning], fun pending =>
          .single (.cancel positive bound pending)⟩
      · rw [if_neg here]
        exact ⟨l, [], rfl, ReadyLoop.unreturning_nil, fun pending => .nil⟩

/-- Closing an engine cancels its registration. -/
theorem cancelsAtMost_close (i : Nat) (s : Service) (r : Nat) (h : Handle) :
    CancelsAtMost i s (s.close r h) where
  steps := .single (.close s r h)
  trace := by
    intro issued l found
    rw [close]
    split
    · exact ⟨l, [], found, ReadyLoop.unreturning_nil, fun pending => .nil⟩
    · rename_i e present
      refine trace_cancel (s := s.mapEngines r (Assoc.erase · h)) found e.source ?_
      intro source known
      exact issued r h source ((driver?_of_engine? present).trans known)

/-- Detaching an engine cancels its registration. -/
theorem cancelsAtMost_detach (i : Nat) (s : Service) (r : Nat) (h : Handle) :
    CancelsAtMost i s (s.detach r h).2 where
  steps := .single (.detach s r h)
  trace := by
    intro issued l found
    rw [detach]
    split
    · exact ⟨l, [], found, ReadyLoop.unreturning_nil, fun pending => .nil⟩
    · rename_i e present
      refine trace_cancel (s := s.setEngine r h { e with source := none }) found e.source ?_
      intro source known
      exact issued r h source ((driver?_of_engine? present).trans known)

/-- Loops know nothing of tables. -/
theorem loops_of_retables
    {r : Nat} {h : Handle}
    (retables : Retables r h s after) :
    after.loops = s.loops := by
  rcases retables with rfl | ⟨e, table, queues, found, rfl⟩ <;> rfl

theorem cancelsAtMost_subscribeFile
    (i : Nat) (s : Service) (r : Nat) (h : Handle) (path : Path) (who : Subscriber) (data : Payload)
    (mask : Mask) :
    CancelsAtMost i s (s.subscribeFile r h path who data mask).2 := by
  refine .of_same (.single (.subscribe s r h path who data mask)) ?_
  rw [loops_of_retables (retables_subscribe path who data mask)]

theorem cancelsAtMost_subscribe
    (i : Nat) (s : Service) (r : Nat) (h : Handle) (name : String) (who : Subscriber)
    (data : Payload) :
    CancelsAtMost i s (s.subscribe r h name who data).2 := by
  rw [subscribe]
  split
  · exact .refl i s
  · exact cancelsAtMost_subscribeFile ..

theorem cancelsAtMost_unsubscribeFile
    (i : Nat) (s : Service) (r : Nat) (h : Handle) (path : Path) (who : Option Subscriber) :
    CancelsAtMost i s (s.unsubscribeFile r h path who).2 := by
  refine .of_same (.single (.unsubscribe s r h path who)) ?_
  rw [loops_of_retables (retables_unsubscribe path who)]

theorem cancelsAtMost_unsubscribe
    (i : Nat) (s : Service) (r : Nat) (h : Handle) (name : String) (who : Option Subscriber) :
    CancelsAtMost i s (s.unsubscribe r h name who).2 := by
  rw [unsubscribe]
  split
  · exact .refl i s
  · exact cancelsAtMost_unsubscribeFile ..

/-- Publishing is a call on files, which loops have no part in. -/
theorem cancelsAtMost_publishAt (i : Nat) (s : Service) (root : Path) (name : String) :
    Yields (s.publishAt root name) (CancelsAtMost i s) := by
  intro after published
  have heard : ∃ host, after = { s with host := host } ∧
      Host.Hears (fun _ => True) s.host host := s.hears_publishAt root name after published
  obtain ⟨host, rfl, -⟩ := heard
  exact .of_same (s.moves_publishAt root name _ published).steps rfl

theorem cancelsAtMost_init (i : Nat) (s : Service) (r : Nat) (exhausted : Bool) :
    CancelsAtMost i s (s.init r exhausted).2 := by
  refine .of_same (.single (.init s r exhausted)) ?_
  have opens : Opens r s (s.init r exhausted).2 := opens_init exhausted
  generalize (s.init r exhausted).2 = after at opens ⊢
  cases opens <;> rfl

/-- The step in which a loop takes the callback of an engine does not touch other loops. -/
theorem cancelsAtMost_join
    {loop : Nat} (other : loop ≠ i) (s : Service) (r : Nat) (h : Handle) :
    CancelsAtMost i s (s.join r h loop).2 := by
  refine .of_same (.single (.join s r h loop)) ?_
  have elsewhere (l : ReadyLoop Ready) : (s.loops.set loop l)[i]? = s.loops[i]? :=
    List.getElem?_set_ne other
  have cancelled (l : ReadyLoop Ready) (id : Nat) :
      (({ s with loops := s.loops.set loop l } : Service).cancel (some ⟨loop, id⟩)).loops[i]? =
        s.loops[i]? := by
    simp [getElem?_cancel, elsewhere, other]
  rw [join]
  split
  · rfl
  · dsimp only
    split
    · exact cancelled _ _
    · split
      · exact cancelled _ _
      · exact elsewhere _

/-- A loop registers the callback of an engine, and cancels the registration where the engine cannot
be attached. -/
theorem loops_join
    {l : ReadyLoop Ready}
    (found : s.loops[i]? = some l) (r : Nat) (h : Handle) :
    (s.join r h i).2.loops[i]? = some (l.register h.fd ⟨r, h⟩).2 ∨
      (s.join r h i).2.loops[i]? =
        some ((l.register h.fd ⟨r, h⟩).2.cancel (l.register h.fd ⟨r, h⟩).1) := by
  have registered : (s.loops.set i (l.register h.fd ⟨r, h⟩).2)[i]? =
      some (l.register h.fd ⟨r, h⟩).2 :=
    List.getElem?_set_self (List.getElem?_eq_some_iff.mp found).1
  have cancelled (id : Nat) :
      (({ s with loops := s.loops.set i (l.register h.fd ⟨r, h⟩).2 } : Service).cancel
          (some ⟨i, id⟩)).loops[i]? = some ((l.register h.fd ⟨r, h⟩).2.cancel id) := by
    rw [getElem?_cancel, registered, Option.map_some, if_pos rfl]
  rw [join, found]
  dsimp only
  split
  · exact .inr (cancelled _)
  · split
    · exact .inr (cancelled _)
    · exact .inl registered

end MarkerWatch.Service
