import Signpost.Text.Quoted

/-!
A cache that constructs the value of a key when it is first asked for.  Callers
of one key share a cell and stand in line at it: the first in line runs its own
constructor, a failure lets the next one try, and a success serves them all.  A
caller that gives up leaves the line.  A slot without a value is released when
the last caller that could still fill it fails.
-/

namespace Signpost

/-- What a caller will do when its turn comes: give way a number of times, and
then end with a value or an error. -/
structure Work (α ε : Type) where
  pauses : Nat
  result : Except ε α

/-- The place where the value of a key comes to be, and the callers in line
for it, the first of which may construct it. -/
structure Cell (α : Type) where
  value : Option α
  line : List Nat

/-- A caller in flight. -/
structure Call (α ε : Type) where
  id : Nat
  key : String
  /-- The number of the cell it holds. -/
  cell : Nat
  /-- What is left of its work. -/
  work : Work α ε

/-- What a caller ends with. -/
structure Answer (α ε : Type) where
  result : Except ε α
  /-- Whether it ran its own constructor. -/
  ran : Bool

/-- A cache: the cell that each key currently has, the cells by number, and the
callers in flight in the order in which they came. -/
structure Cache (α ε : Type) where
  partition : String
  slots : List (String × Nat)
  cells : Nat → Cell α
  /-- The number of the next cell. -/
  nextCell : Nat
  calls : List (Call α ε)

namespace Cache

variable {α ε : Type}

/-- The cache in which nothing has been constructed. -/
def empty (partition : String) : Cache α ε :=
  ⟨partition, [], fun _ => ⟨none, []⟩, 0, []⟩

/-- The value constructed for a key. -/
def get? (cache : Cache α ε) (key : String) : Option α :=
  (cache.slots.lookup key).bind fun n => (cache.cells n).value

/-- Whether a value has been constructed for a key. -/
def contains (cache : Cache α ε) (key : String) : Bool :=
  (cache.get? key).isSome

/-- How many keys have a value. -/
def size (cache : Cache α ε) : Nat :=
  (cache.slots.filter fun slot => (cache.cells slot.2).value.isSome).length

/-- Whether no key has a value. -/
def isEmpty (cache : Cache α ε) : Bool := cache.size == 0

/-- The text of a cache in diagnostics. -/
def text (cache : Cache α ε) : String :=
  "ResourceCache \x7b partition: " ++ quoted cache.partition ++ ", len: " ++ toString cache.size
    ++ " \x7d"

/-- The cache with one cell changed. -/
def setCell (cache : Cache α ε) (n : Nat) (cell : Cell α) : Cache α ε :=
  { cache with cells := fun m => if m = n then cell else cache.cells m }

/-- The cell of a key, made if the key has none. -/
def cellOf (cache : Cache α ε) (key : String) : Nat × Cache α ε :=
  match cache.slots.lookup key with
  | some n => (n, cache)
  | none =>
      (cache.nextCell,
        { cache with slots := cache.slots ++ [(key, cache.nextCell)]
                     nextCell := cache.nextCell + 1 })

/-- A caller in flight. -/
def call? (cache : Cache α ε) (id : Nat) : Option (Call α ε) :=
  cache.calls.find? fun call => call.id == id

/-- How many callers in flight hold a cell. -/
def holders (cache : Cache α ε) (n : Nat) : Nat :=
  (cache.calls.filter fun call => call.cell == n).length

/-- The cache without a caller. -/
def removeCall (cache : Cache α ε) (id : Nat) : Cache α ε :=
  { cache with calls := cache.calls.filter fun call => call.id != id }

/-- The cache in which a caller has left the line of its cell. -/
def leaveLine (cache : Cache α ε) (call : Call α ε) : Cache α ε :=
  let cell := cache.cells call.cell
  cache.setCell call.cell { cell with line := cell.line.filter (· != call.id) }

/-- Release the slot of a key if its cell has no value and one holder only. -/
def releaseSlot (cache : Cache α ε) (key : String) : Cache α ε :=
  match cache.slots.lookup key with
  | none => cache
  | some n =>
      if (cache.cells n).value.isNone && cache.holders n == 1 then
        { cache with slots := cache.slots.filter fun slot => slot.1 != key }
      else cache

/-- One attempt of a caller to go on.  It ends with the value of its cell if
there is one, works on its own if it is first in line, and waits otherwise. -/
def poll (cache : Cache α ε) (id : Nat) : Cache α ε × Option (Answer α ε) :=
  match cache.call? id with
  | none => (cache, none)
  | some call =>
      let cell := cache.cells call.cell
      match cell.value with
      | some v => (cache.removeCall id, some ⟨.ok v, false⟩)
      | none =>
          if cell.line.head? = some id then
            match call.work.pauses with
            | left + 1 =>
                let later := { call with work := { call.work with pauses := left } }
                let calls := cache.calls.map fun c => if c.id == id then later else c
                ({ cache with calls }, none)
            | 0 =>
                match call.work.result with
                | .ok v =>
                    ((cache.setCell call.cell ⟨some v, []⟩).removeCall id, some ⟨.ok v, true⟩)
                | .error e =>
                    let left := (cache.leaveLine call).releaseSlot call.key
                    (left.removeCall id, some ⟨.error e, true⟩)
          else (cache, none)

/-- A caller comes, takes hold of the cell of its key, lines up unless the value
is there already, and makes its first attempt. -/
def arrive (cache : Cache α ε) (id : Nat) (key : String) (work : Work α ε) :
    Cache α ε × Option (Answer α ε) :=
  let (n, cache) := cache.cellOf key
  let cell := cache.cells n
  let lined :=
    if cell.value.isSome then cache
    else cache.setCell n { cell with line := cell.line ++ [id] }
  let joined : Cache α ε := { lined with calls := lined.calls ++ [⟨id, key, n, work⟩] }
  joined.poll id

/-- A caller gives up.  The slot of its key stays. -/
def abandon (cache : Cache α ε) (id : Nat) : Cache α ε :=
  match cache.call? id with
  | none => cache
  | some call => (cache.leaveLine call).removeCall id

/-- What can happen to a cache. -/
inductive Event (α ε : Type) where
  | arrive (id : Nat) (key : String) (work : Work α ε)
  | poll (id : Nat)
  | abandon (id : Nat)

/-- One event, with the answer of the caller that ends with it. -/
def step (cache : Cache α ε) : Event α ε → Cache α ε × Option (Nat × Answer α ε)
  | .arrive id key work =>
      let (next, answer) := cache.arrive id key work
      (next, answer.map (id, ·))
  | .poll id =>
      let (next, answer) := cache.poll id
      (next, answer.map (id, ·))
  | .abandon id => (cache.abandon id, none)

/-- A run of events, with the answers in the order in which callers ended. -/
def run (cache : Cache α ε) : List (Event α ε) → Cache α ε × List (Nat × Answer α ε)
  | [] => (cache, [])
  | event :: rest =>
      let (next, answer) := cache.step event
      let (last, answers) := next.run rest
      (last, answer.toList ++ answers)

/-- A number that no caller in flight bears. -/
def freshId (cache : Cache α ε) : Nat :=
  cache.calls.foldl (fun n call => max n (call.id + 1)) 0

/-- Attempt after attempt of one caller, until it ends. -/
def pollOut (cache : Cache α ε) (id : Nat) : Nat → Cache α ε × Option (Answer α ε)
  | 0 => (cache, none)
  | attempts + 1 =>
      match cache.poll id with
      | (next, some answer) => (next, some answer)
      | (next, none) => next.pollOut id attempts

/-- A call from start to end, nothing coming between. -/
def call (cache : Cache α ε) (key : String) (work : Work α ε) :
    Cache α ε × Option (Answer α ε) :=
  let id := cache.freshId
  match cache.arrive id key work with
  | (next, some answer) => (next, some answer)
  | (next, none) => next.pollOut id work.pauses

/-- The value of a key, constructed as `make` if there is none yet. -/
def obtain (cache : Cache α ε) (key : String) (make : α) : α × Cache α ε :=
  match cache.call key ⟨0, .ok make⟩ with
  | (next, some ⟨.ok v, _⟩) => (v, next)
  | (next, _) => (make, next)

/-- One attempt of each of these callers in turn. -/
def pollEach (cache : Cache α ε) : List Nat → Cache α ε × List (Nat × Answer α ε)
  | [] => (cache, [])
  | id :: rest =>
      let (next, answer) := cache.poll id
      let (last, answers) := next.pollEach rest
      (last, (answer.map (id, ·)).toList ++ answers)

/-- Rounds of attempts of all these callers. -/
def pollRounds (cache : Cache α ε) (ids : List Nat) : Nat → Cache α ε × List (Nat × Answer α ε)
  | 0 => (cache, [])
  | rounds + 1 =>
      let (next, answers) := cache.pollEach ids
      let (last, more) := next.pollRounds ids rounds
      (last, answers ++ more)

/-- Callers that come one right after the other and then take turns, with what
each of them ends with. -/
def together (cache : Cache α ε) (calls : List (String × Work α ε)) :
    Cache α ε × List (Nat × Answer α ε) :=
  let first := cache.freshId
  let ids := List.range' first calls.length
  let (begun, early) :=
    cache.run ((ids.zip calls).map fun (id, key, work) => Event.arrive id key work)
  let rounds := calls.foldl (fun n c => n + c.2.pauses + 1) 0
  let (last, late) := begun.pollRounds ids rounds
  (last, (early ++ late).map fun (id, answer) => (id - first, answer))

end Cache

end Signpost
