import MarkerWatch.Watch.Kernel

/-!
# Watch tables

A watch table holds the subscriptions of one engine in the order in which they were made.  Several
subscriptions may share a watch; the mask of that watch is the union of what they ask for.

An operation first looks the watch of its path up by adding it with the probe mask, which also
creates it if need be.  It ends by putting the union of the remaining subscriptions in place of the
probe mask, or by removing the watch when none remain.
-/

namespace MarkerWatch

/-- One subscription: who is told, with which data, of which events on which watch. -/
structure Subscription (σ δ : Type) where
  watch : WatchId
  mask : Mask
  subscriber : σ
  data : δ
  deriving DecidableEq, Repr

/-- The subscriptions of one engine, the oldest first. -/
structure WatchTable (σ δ : Type) where
  entries : List (Subscription σ δ)
  deriving DecidableEq, Repr

namespace WatchTable

variable {κ σ δ : Type}

/-- The table without subscriptions. -/
def empty : WatchTable σ δ :=
  ⟨[]⟩

instance : Inhabited (WatchTable σ δ) := ⟨empty⟩

/-- The subscriptions on a watch. -/
def on (t : WatchTable σ δ) (w : WatchId) : List (Subscription σ δ) :=
  t.entries.filter (·.watch = w)

/-- What the subscriptions on a watch ask for together. -/
def aggregate (t : WatchTable σ δ) (w : WatchId) : Mask :=
  Mask.union ((t.on w).map (·.mask))

/-- The watches with subscriptions, in the order of the first subscription on each. -/
def watchIds (t : WatchTable σ δ) : List WatchId :=
  (t.entries.map (·.watch)).eraseDups

/-- Who is told of an event on a watch, with which data, in the order of subscription. -/
def matching (t : WatchTable σ δ) (w : WatchId) (m : Mask) : List (σ × δ) :=
  (t.entries.filter fun e => e.watch = w ∧ e.mask.intersects m).map fun e =>
    (e.subscriber, e.data)

variable [DecidableEq σ]

/-- Whether a subscriber has a subscription on a watch. -/
def registered (t : WatchTable σ δ) (w : WatchId) (s : σ) : Bool :=
  t.entries.any fun e => e.watch = w ∧ e.subscriber = s

/-- Whether a subscription is meant by a watch and, where one is named, a subscriber. -/
def selects (w : WatchId) (who : Option σ) (e : Subscription σ δ) : Bool :=
  e.watch = w && who.all (· = e.subscriber)

variable [WatchKernel κ]

/-- The kernel after a mask was put on the watch of a path. An empty mask is not put there. -/
def install (k : κ) (path : Path) (m : Mask) : Except Fault Unit × κ :=
  if m.isEmpty then (.ok (), k)
  else
    match WatchKernel.addWatch k path m with
    | (.ok _, k) => (.ok (), k)
    | (.error f, k) => (.error f, k)

/-- The kernel after a failed update was undone as far as it can be: the watch has what the table
asks for, or is removed when that is nothing.  A further failure is not reported. -/
def restore (t : WatchTable σ δ) (k : κ) (path : Path) (w : WatchId) : κ :=
  if (t.aggregate w).isEmpty then (WatchKernel.removeWatch k w).2
  else (WatchKernel.addWatch k path (t.aggregate w)).2

/-- The table and the kernel after a subscription, with the id of its watch. -/
def subscribe (t : WatchTable σ δ) (k : κ) (path : Path) (s : σ) (data : δ) (m : Mask) :
    Except Fault WatchId × WatchTable σ δ × κ :=
  if m.subscribable then
    match WatchKernel.addWatch k path Mask.probe with
    | (.error f, k) => (.error f, t, k)
    | (.ok w, k) =>
      if t.registered w s then
        (.error (.alreadyExists path), t, (install k path (t.aggregate w)).2)
      else
        match install k path (t.aggregate w ∪ m) with
        | (.error f, k) => (.error f, t, t.restore k path w)
        | (.ok (), k) => (.ok w, ⟨t.entries ++ [⟨w, m, s, data⟩]⟩, k)
  else
    (.error (.invalidArgument (.interest m)), t, k)

/-- The kernel after the watch of a path was left with what some subscriptions ask for. -/
def leave (k : κ) (path : Path) (w : WatchId) (survivors : List (Subscription σ δ)) :
    Except Fault Unit × κ :=
  if survivors.isEmpty then WatchKernel.removeWatch k w
  else
    match WatchKernel.addWatch k path (Mask.union (survivors.map (·.mask))) with
    | (.ok _, k) => (.ok (), k)
    | (.error f, k) => (.error f, k)

/-- The table and the kernel after the subscriptions on a path were ended, either all of them or
those of one subscriber, with how many there were. -/
def unsubscribe (t : WatchTable σ δ) (k : κ) (path : Path) (who : Option σ) :
    Except Fault Nat × WatchTable σ δ × κ :=
  match WatchKernel.addWatch k path Mask.probe with
  | (.error f, k) => (.error f, t, k)
  | (.ok w, k) =>
    let ended := t.entries.filter (selects w who)
    let survivors := (t.on w).filter (!selects w who ·)
    match leave k path w survivors with
    | (.error f, k) => (.error f, t, t.restore k path w)
    | (.ok (), k) =>
      if ended.isEmpty then (.error (.notFound path), t, k)
      else (.ok ended.length, ⟨t.entries.filter (!selects w who ·)⟩, k)

omit [DecidableEq σ] in
@[simp]
theorem on_empty (w : WatchId) : (empty : WatchTable σ δ).on w = [] :=
  rfl

omit [DecidableEq σ] in
@[simp]
theorem aggregate_empty (w : WatchId) : (empty : WatchTable σ δ).aggregate w = ∅ :=
  rfl

/-- A mask that no subscriber may ask for changes nothing. -/
theorem subscribe_of_not_subscribable (t : WatchTable σ δ) (k : κ) (path : Path) (s : σ)
    (data : δ) {m : Mask} (h : m.subscribable = false) :
    t.subscribe k path s data m = (.error (.invalidArgument (.interest m)), t, k) := by
  simp [subscribe, h]

end WatchTable

end MarkerWatch
