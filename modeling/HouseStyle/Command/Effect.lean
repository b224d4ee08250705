import HouseStyle.Files.View
import HouseStyle.Report.Diagnostic

/-!
# Effects

A program is seen from outside by what it does, one thing after the other: it tells the user
something, it prints, it makes directories and writes files. Attempts to change the files may fail,
and how the program goes on can depend on that. So a program is a tree of effects (`Process`), and
its run on a file system gives the value it ends with, all that it has done, in order, and the state
that the files are left in (`Process.run`).
-/

namespace HouseStyle

/-- Something that a program does to what is around it. -/
inductive Effect where
  /-- Puts a message on the error stream. -/
  | tell (message : Diagnostic)
  /-- Puts a text on the standard output. -/
  | print (text : String)
  /-- Makes a directory and the directories it lies in, as far as they are missing. -/
  | makeDirectories (path : Path)
  /-- Writes a text file in a directory that exists. -/
  | write (path : Path) (text : String)
  deriving DecidableEq, Repr

/-- A program that does one thing after the other and ends with a value. How it goes on depends on
whether the last attempt has succeeded. -/
inductive Process (α : Type) where
  | done (value : α)
  | act (effect : Effect) (next : Except String Unit → Process α)

namespace Process

/-- A process that goes on when another one has ended. -/
def andThen {α β : Type} : Process α → (α → Process β) → Process β
  | done value, f => f value
  | act effect next, f => act effect fun answer => (next answer).andThen f

instance : Monad Process where
  pure := done
  bind := andThen

/-- Does something, and gives the answer. -/
def attempt (effect : Effect) : Process (Except String Unit) := act effect done

/-- Tells the user something. -/
def tell (message : Diagnostic) : Process Unit := act (.tell message) fun _ => done ()

/-- Prints a text. -/
def print (text : String) : Process Unit := act (.print text) fun _ => done ()

end Process

/-- A file system by its states: what a program sees of them, and how it changes them. -/
structure FileSystem (σ : Type) where
  view : σ → FileView
  makeDirectories : Path → σ → Except String Unit × σ
  write : Path → String → σ → Except String Unit × σ

/-- How the files answer to what is done, and what becomes of them. Output leaves them alone. -/
def FileSystem.perform {σ : Type} (fs : FileSystem σ) : Effect → σ → Except String Unit × σ
  | .tell _, s | .print _, s => (.ok (), s)
  | .makeDirectories path, s => fs.makeDirectories path s
  | .write path text, s => fs.write path text s

/-- What a process has come to. -/
structure Run (σ α : Type) where
  value : α
  /-- All that has been done, in order. -/
  effects : List Effect
  /-- The state that the files are left in. -/
  state : σ

/-- The run of a process on a file system. -/
def Process.run {σ α : Type} (fs : FileSystem σ) : Process α → σ → Run σ α
  | done value, s => ⟨value, [], s⟩
  | act effect next, s =>
    let answer := fs.perform effect s
    let rest := (next answer.1).run fs answer.2
    { rest with effects := effect :: rest.effects }

end HouseStyle
