/-
  Redirections of the descriptors of a command.
-/
import FlowLens.Shell.Evaluation.Process

namespace FlowLens

namespace Shell

/-! ## Redirections -/

/-- A redirection with its target expanded.  A document has none yet. -/
structure Redirection where
  descriptor : Nat
  direction : Direction
  target : Octets

/-- Whether it closes its descriptor. -/
def Redirection.closes (r : Redirection) : Bool :=
  match r.direction with
  | .duplicate _ => r.target = "-"
  | _ => false

/-- Whether it leads its descriptor to where that leads already. -/
def Redirection.isIdle (r : Redirection) : Bool :=
  match r.direction with
  | .duplicate _ => r.target = Octets.ofNat r.descriptor
  | _ => false

/-- Expands the target of a redirection. -/
def expandRedirect (self : Eval) : Redirect → Act Redirection
  | .mk fd direction target => do
    let text ← expandWhole (capture self) target
    match direction with
    | .duplicate _ =>
      let known : Bool := match text with | [c] => c.isDigit || c = '-' | _ => false
      if !known then fail "Syntax error: Bad fd number"
    | _ => pure ()
    return ⟨fd, direction, text⟩

/-- Leads a descriptor to a new channel. -/
def openOn (fd : Nat) (world : World) (channel : Channel) : Act Unit := do
  let (n, world) := world.openChannel channel
  modify fun s => { s with world }.withDescriptor fd (some n)

/-- Carries out a redirection. -/
def redirect (self : Eval) (r : Redirection) : Act Unit := do
  let s ← get
  let fd := r.descriptor
  let duplicate (from_ : Nat) : Act Unit := do
    match s.descriptors.lookup from_ with
    | some n => modify fun s => s.withDescriptor fd (some n)
    | none =>
      modify fun s => s.withDescriptor fd none
      fail (Octets.ofNat from_ ++ ": Bad file descriptor")
  let create (appends keeps reads : Bool) : Act Unit :=
    match deviceDescriptor? r.target with
    | some from_ => duplicate from_
    | none =>
      match s.openToWrite r.target appends keeps reads with
      | .ok (channel, world) => openOn fd world channel
      | .error refusal =>
        fail ("cannot create " ++ r.target ++ ": " ++ openingText true refusal)
  match r.direction with
  | .input =>
    match deviceDescriptor? r.target with
    | some from_ => duplicate from_
    | none =>
      match s.openToRead r.target false with
      | .ok channel => openOn fd s.world channel
      | .error refusal =>
        fail ("cannot open " ++ r.target ++ ": " ++ openingText false refusal)
  | .output =>
    let isProtected : Bool :=
      s.has 'C' &&
        match s.nodeAt r.target with | .ok (.file _ _) | .ok (.sealed _) => true | _ => false
    let isDirectory : Bool := s.has 'C' && s.isDirectory r.target
    if isProtected then fail ("cannot create " ++ r.target ++ ": File exists")
    else if isDirectory then fail ("cannot open " ++ r.target ++ ": Is a directory")
    else create false false false
  | .clobber => create false false false
  | .append => create true false false
  | .both => create false true true
  | .duplicate _ =>
    match r.target with
    | ['-'] => modify fun s => s.withDescriptor fd none
    | text => duplicate (Octets.decimal text)
  | .document n =>
    let text ← expandWhole (capture self) ((s.world.documents.lookup n).getD [])
    openOn fd (← get).world (.source text)

/-- The descriptors as they were before redirections. -/
structure Kept where
  /-- Their channels. -/
  descriptors : List (Nat × Option Nat)
  /-- The number of the first channel that came later. -/
  mark : Nat

/-- Puts a descriptor back.  One that had no channel is taken for closed from then on. -/
def State.putBack (s : State) (fd : Nat) (channel : Option Nat) : State :=
  let others := s.shut.filter (· ≠ fd)
  { s with shut := if channel.isNone then fd :: others else others }.withDescriptor fd channel

/-- Puts descriptors back. -/
def putBackDescriptors (kept : Kept) : Act Unit :=
  modify fun s =>
    let s := kept.descriptors.foldl (fun s (fd, channel) => s.putBack fd channel) s
    { s with world := s.world.forget kept.mark s.descriptors }

/-- Carries out redirections.  If one fails, those before it are taken back.  A
    descriptor that is taken for closed is closed behind them, whatever it was. -/
def redirectAll (self : Eval) (redirections : List Redirection) : Act (Option Kept) := do
  let s ← get
  let redirections := redirections.filter (!·.isIdle)
  let kept : Kept :=
    ⟨redirections.map fun r =>
        (r.descriptor,
          if s.shut.contains r.descriptor then none else s.descriptors.lookup r.descriptor),
      s.world.nextChannel⟩
  let carryOut (r : Redirection) : Act Unit := do
    redirect self r
    modify fun s =>
      let others := s.shut.filter (· ≠ r.descriptor)
      { s with shut := if r.closes then r.descriptor :: others else others }
  match ← attempt (redirections.forM carryOut) with
  | .ok () => return some kept
  | .error .fault =>
    putBackDescriptors kept
    return none
  | .error stop => throw stop

end Shell

end FlowLens
