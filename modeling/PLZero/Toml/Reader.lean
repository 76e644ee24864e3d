import PLZero.Text.Position
import PLZero.Toml.Flaw

/-! Readers of text. A reader consumes a text from its front and gives a result, or refuses with a
flaw; where a refusing reader stops is where the flaw shows.

* After a refusal another reader may be tried at the same place (`<|>`, `maybe`, `many`), unless
  the refusal is final: then it is settled what was meant, and that it is wrong.
* `commit` makes every refusal final; `labelled` and `expecting` say more about the flaw.
* Of two readers that both refuse, the last tells what is wrong and where. -/
namespace PLZero.Toml
set_option autoImplicit false

/-- What is left of a text, and where it begins. -/
structure Unread where
  rest : List Char
  here : Position
  deriving DecidableEq, Repr

structure Refusal where
  flaw : Flaw
  /-- Whether no other reader is to be tried. -/
  final : Bool
  deriving DecidableEq, Repr

def Reader (α : Type) : Type := EStateM Refusal Unread α

namespace Reader

instance : Monad Reader := inferInstanceAs (Monad (EStateM Refusal Unread))

/-! ## Places -/

def unread : Reader Unread := fun u => .ok u u

def goTo (u : Unread) : Reader Unit := fun _ => .ok () u

/-- The result of `r` with the extent that it was read from. -/
def located {α : Type} (r : Reader α) : Reader (α × Extent) := do
  let p := (← unread).here
  let a ← r
  return (a, .between p (← unread).here)

/-! ## Refusals -/

def refuse {α : Type} (f : Flaw) : Reader α := fun u => .error ⟨f, false⟩ u

/-- Refuses with a flaw of which nothing is known. -/
def fail {α : Type} : Reader α := refuse .plain

/-- Changes what is said when `r` refuses. -/
def amend {α : Type} (f : Refusal → Refusal) (r : Reader α) : Reader α := fun u =>
  match r u with
  | .ok a v => .ok a v
  | .error e v => .error (f e) v

def commit {α : Type} (r : Reader α) : Reader α := r.amend fun e => { e with final := true }

def labelled {α : Type} (p : Part) (r : Reader α) : Reader α :=
  r.amend fun e => { e with flaw := e.flaw.inside p }

def expecting {α : Type} (hints : List Hint) (r : Reader α) : Reader α :=
  r.amend fun e => { e with flaw := e.flaw.hinted hints }

/-- What `x` gives, or a refusal at `u`. -/
def accept {α : Type} (u : Unread) (x : Except Flaw.Cause α) : Reader α :=
  match x with
  | .ok a => pure a
  | .error c => do goTo u; refuse (.ofCause c)

/-- What `f` makes of the result of `r`. If it makes nothing, the flaw shows where `r` began. -/
def check {α β : Type} (r : Reader α) (f : α → Except Flaw.Cause β) : Reader β := do
  let u ← unread
  accept u (f (← r))

/-! ## Choices -/

instance {α : Type} : OrElse (Reader α) where
  orElse r s := fun u =>
    match r u with
    | .ok a v => .ok a v
    | .error e v => if e.final then .error e v else s () u

/-- The result of `r`, if it gives one. -/
def maybe {α : Type} (r : Reader α) : Reader (Option α) := some <$> r <|> pure none

/-- Consumes nothing, whatever becomes of `r`. -/
def lookahead {α : Type} (r : Reader α) : Reader α := fun u =>
  match r u with
  | .ok a _ => .ok a u
  | .error e _ => .error e u

/-- Goes on from `b` by `r` until `r` refuses, but at most once for each of the characters. -/
def iterate {β : Type} (r : β → Reader β) : List Char → β → Reader β
  | [], b => pure b
  | _ :: cs, b => do
    match ← maybe (r b) with
    | some b => iterate r cs b
    | none => pure b

/-- Goes on from `b` by `r`, which consumes something every time, until `r` refuses. -/
def foldMany {β : Type} (b : β) (r : β → Reader β) : Reader β := do
  iterate r (← unread).rest b

/-- As many results of `r` as there are, possibly none. -/
def many {α : Type} (r : Reader α) : Reader (List α) :=
  List.reverse <$> foldMany [] fun as => do return (← r) :: as

def many1 {α : Type} (r : Reader α) : Reader (List α) := do return (← r) :: (← many r)

/-- Results of `item` with separators between, at least one. A separator at the end is left. -/
def separated1 {α : Type} (item : Reader α) (separator : Reader Unit) : Reader (α × List α) := do
  return (← item, ← many (separator *> item))

/-- Results of `item` with separators between, possibly none. -/
def separated {α : Type} (item : Reader α) (separator : Reader Unit) : Reader (List α) := do
  match ← maybe (separated1 item separator) with
  | some (a, as) => return a :: as
  | none => return []

/-! ## Characters -/

def peek : Reader (Option Char) := do return (← unread).rest.head?

def next (p : Char → Bool) : Reader Char := fun u =>
  match u.rest with
  | c :: cs => if p c then .ok c ⟨cs, u.here.advance c⟩ else fail u
  | [] => fail u

def char (c : Char) : Reader Unit := do let _ ← next (· == c)

/-- The characters `cs`, all of them or none. -/
def literal (cs : List Char) : Reader Unit := fun u =>
  if cs.isPrefixOf u.rest then .ok () ⟨u.rest.drop cs.length, u.here.advanceBy cs⟩ else fail u

/-- The longest run of characters of a class, possibly empty. -/
def takeWhile (p : Char → Bool) : Reader (List Char) := fun u =>
  let cs := u.rest.takeWhile p
  .ok cs ⟨u.rest.dropWhile p, u.here.advanceBy cs⟩

def takeWhile1 (p : Char → Bool) : Reader (List Char) := do return (← next p) :: (← takeWhile p)

/-- The next `n` characters, if all of them are of a class. -/
def exactly (n : Nat) (p : Char → Bool) : Reader (List Char) := do
  let cs := (← unread).rest.take n
  if cs.length = n ∧ cs.all p = true then
    literal cs
    return cs
  else fail

/-- Succeeds at the end of the text only. -/
def atEnd : Reader Unit := do if (← peek).isSome then fail

end Reader

end PLZero.Toml
