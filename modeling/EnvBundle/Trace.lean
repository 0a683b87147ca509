import EnvBundle.Fetch.Options
import EnvBundle.Log

/-! What an operation does on its way to a result, in order. -/
namespace EnvBundle

inductive Event where
  /-- A fetcher is asked for the bundle of a token. -/
  | asked (token : Text) (options : Fetch.Options)
  /-- A program is started. -/
  | started (program : Path) (arguments : List Bytes)
  | logged (line : Log.Line)

structure Traced (α : Type) where
  value : α
  events : List Event

namespace Traced

variable {α β : Type}

def pure (value : α) : Traced α := ⟨value, []⟩

/-- The events of the second operation follow those of the first. -/
def bind (first : Traced α) (next : α → Traced β) : Traced β :=
  ⟨(next first.value).value, first.events ++ (next first.value).events⟩

instance : Monad Traced where
  pure := Traced.pure
  bind := Traced.bind

def note (event : Event) : Traced Unit := ⟨(), [event]⟩

def log (level : Log.Level) (message : Text) (fields : List (Text × Text)) : Traced Unit :=
  note (.logged ⟨level, message, fields⟩)

/-- The lines logged. -/
def lines (run : Traced α) : List Log.Line :=
  run.events.filterMap fun
    | .logged line => some line
    | _ => none

/-- The requests to fetchers. -/
def requests (run : Traced α) : List (Text × Fetch.Options) :=
  run.events.filterMap fun
    | .asked token options => some (token, options)
    | _ => none

/-- The programs started, with their arguments. -/
def starts (run : Traced α) : List (Path × List Bytes) :=
  run.events.filterMap fun
    | .started program arguments => some (program, arguments)
    | _ => none

@[simp] theorem value_pure (value : α) : (Pure.pure value : Traced α).value = value := rfl

@[simp] theorem events_pure (value : α) : (Pure.pure value : Traced α).events = [] := rfl

@[simp] theorem value_bind (first : Traced α) (next : α → Traced β) :
    (first >>= next).value = (next first.value).value := rfl

@[simp] theorem events_bind (first : Traced α) (next : α → Traced β) :
    (first >>= next).events = first.events ++ (next first.value).events := rfl

@[simp] theorem starts_pure (value : α) : (Pure.pure value : Traced α).starts = [] := rfl

@[simp] theorem starts_bind (first : Traced α) (next : α → Traced β) :
    (first >>= next).starts = first.starts ++ (next first.value).starts := List.filterMap_append

end Traced

end EnvBundle
