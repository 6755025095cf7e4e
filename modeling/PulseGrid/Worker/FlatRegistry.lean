/-
  PulseGrid.Worker.FlatRegistry

  What the connection registry is for: one flat map from a device to its current
  connection (id, shard, location), and one bounded queue per connection ever
  made, numbered in order of registration.  There is no second index here; a
  shard's connections are the entries with that shard.  Every operation is
  stated on that map alone, and a broadcast by which connections it reaches.

  `RegistryRefinement` shows that the registry of the code computes exactly this.
-/

import PulseGrid.Worker.ConnectionRegistry

namespace PulseGrid.Worker

/-- The current connection of a device. -/
structure FlatEntry (S L : Type*) where
  conn : Nat
  connId : UInt64
  shard : S
  location : L

@[ext] structure FlatRegistry (D S L P : Type*) where
  entries : D → Option (FlatEntry S L)
  /-- The queue of connection number `n`. -/
  queues : List (Channel (Outbound P))
  nextId : UInt64

namespace FlatRegistry

variable {D S L P A : Type*}

def empty : FlatRegistry D S L P := { entries := fun _ => none, queues := [], nextId := 0 }

/-- Connection `n` has a queue that takes a message now: it is open and not full. -/
def Accepts (f : FlatRegistry D S L P) (n : Nat) : Prop :=
  ∃ q, f.queues[n]? = some q ∧ q.rxOpen = true ∧ q.queue.length < connectionChannelCapacity

/-- The devices registered with shard `s`. -/
def inShard (f : FlatRegistry D S L P) (s : S) : Set D :=
  {d | ∃ e, f.entries d = some e ∧ e.shard = s}

/-- The devices of shard `s` whose recorded location is inside the alert circle. -/
def inCircle (contains : A → L → Bool) (f : FlatRegistry D S L P) (s : S) (alert : A) : Set D :=
  {d | ∃ e, f.entries d = some e ∧ e.shard = s ∧ contains alert e.location = true}

/-- The devices a broadcast is queued to. -/
def reached (contains : A → L → Bool) (f : FlatRegistry D S L P) (s : S) (alert : A) : Set D :=
  {d | ∃ e, f.entries d = some e ∧ e.shard = s ∧ contains alert e.location = true ∧
    f.Accepts e.conn}

/-- Connection `n` is the current one of a device that a broadcast is queued to. -/
def ReachedConn (contains : A → L → Bool) (f : FlatRegistry D S L P) (s : S) (alert : A)
    (n : Nat) : Prop :=
  ∃ d e, f.entries d = some e ∧ e.conn = n ∧ d ∈ f.reached contains s alert

def offerTo (f : FlatRegistry D S L P) (n : Nat) (m : Outbound P) : FlatRegistry D S L P :=
  { f with queues := f.queues.modify n fun q => q.offer m }

open Classical in
/-- Set the entry of one device. -/
noncomputable def setEntry (f : FlatRegistry D S L P) (d : D) (e : Option (FlatEntry S L)) :
    FlatRegistry D S L P :=
  { f with entries := Function.update f.entries d e }

@[simp] theorem setEntry_entries_self (f : FlatRegistry D S L P) (d : D)
    (e : Option (FlatEntry S L)) : (f.setEntry d e).entries d = e := by
  simp [setEntry]

theorem setEntry_entries_of_ne (f : FlatRegistry D S L P) {d d' : D} (h : d' ≠ d)
    (e : Option (FlatEntry S L)) : (f.setEntry d e).entries d' = f.entries d' := by
  classical
  simp only [setEntry]
  rw [Function.update_of_ne h]

@[simp] theorem setEntry_queues (f : FlatRegistry D S L P) (d : D)
    (e : Option (FlatEntry S L)) : (f.setEntry d e).queues = f.queues := rfl

@[simp] theorem setEntry_nextId (f : FlatRegistry D S L P) (d : D)
    (e : Option (FlatEntry S L)) : (f.setEntry d e).nextId = f.nextId := rfl

noncomputable def register (f : FlatRegistry D S L P) (d : D) (s : S) (l : L) :
    FlatRegistry D S L P × Registered :=
  let n := f.queues.length
  let opened : FlatRegistry D S L P := { f with
    queues := f.queues ++ [{ capacity := connectionChannelCapacity }]
    nextId := f.nextId + 1 }
  let told : FlatRegistry D S L P := match f.entries d with
    | some e => opened.offerTo e.conn .close
    | none => opened
  (told.setEntry d (some ⟨n, f.nextId + 1, s, l⟩), { connId := f.nextId + 1, receiver := n })

noncomputable def deregister (f : FlatRegistry D S L P) (d : D) (connId : UInt64) :
    FlatRegistry D S L P × Bool :=
  match f.entries d with
  | some e => if e.connId = connId then (f.setEntry d none, true) else (f, false)
  | none => (f, false)

noncomputable def updateLocation (f : FlatRegistry D S L P) (d : D) (l : L) :
    FlatRegistry D S L P × Bool :=
  match f.entries d with
  | some e => (f.setEntry d (some { e with location := l }), true)
  | none => (f, false)

open Classical in
noncomputable def sendControl (f : FlatRegistry D S L P) (d : D) (text : String) (close : Bool) :
    FlatRegistry D S L P × Bool :=
  match f.entries d with
  | none => (f, false)
  | some e =>
      if f.Accepts e.conn then (f.offerTo e.conn (.control text close), true)
      else if close then (f.setEntry d none, true)
      else (f, true)

def senderFor (f : FlatRegistry D S L P) (d : D) (connId : UInt64) : Option Nat :=
  ((f.entries d).filter fun e => e.connId == connId).map FlatEntry.conn

open Classical in
/-- Every reached connection's queue gets the payload once; the counts are over
    the devices of the shard. -/
noncomputable def broadcastToShard (contains : A → L → Bool) (f : FlatRegistry D S L P) (s : S)
    (alert : A) (payload : P) : FlatRegistry D S L P × BroadcastResult :=
  ({ f with
      queues := f.queues.mapIdx fun n q =>
        if f.ReachedConn contains s alert n then { q with queue := q.queue ++ [.alert payload] }
        else q },
    { delivered := (f.reached contains s alert).ncard
      dropped := (f.inCircle contains s alert \ f.reached contains s alert).ncard
      filteredOut := (f.inShard s \ f.inCircle contains s alert).ncard })

open Classical in
noncomputable def closeAll (f : FlatRegistry D S L P) : FlatRegistry D S L P :=
  { f with
    entries := fun _ => none
    queues := f.queues.mapIdx fun n q =>
      if ∃ d e, f.entries d = some e ∧ e.conn = n then q.offer .close else q }

def recv (f : FlatRegistry D S L P) (n : Nat) : FlatRegistry D S L P × Option (Outbound P) :=
  ({ f with queues := f.queues.modify n fun q => q.recv.2 },
    (f.queues[n]?).bind fun q => q.recv.1)

def dropReceiver (f : FlatRegistry D S L P) (n : Nat) : FlatRegistry D S L P :=
  { f with queues := f.queues.modify n Channel.dropReceiver }

end FlatRegistry

end PulseGrid.Worker
