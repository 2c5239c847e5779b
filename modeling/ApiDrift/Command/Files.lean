/-!
# Files

What a program does with files: it reads the text of one, and it writes a text to one. Where a path leads, and what else there is, is left to whoever keeps the files.
-/

namespace ApiDrift.Command

/-- What reading a file gives. It is absent where the path leads to nothing. -/
inductive Content
  | absent
  | unreadable
  | text (value : String)
  deriving DecidableEq

/-- A way to keep files: what a path reads as, and what the files become when a text is written to a path, if it can be. -/
structure FileStore (φ : Type) where
  read : φ → String → Content
  write? : φ → String → String → Option φ

namespace FileStore

/-- What is written to a path is read there afterwards. A device need not keep what it is given. -/
def Retains {φ : Type} (store : FileStore φ) (path : String) : Prop :=
  ∀ ⦃before after : φ⦄ ⦃text : String⦄, store.write? before path text = some after →
    store.read after path = .text text

end FileStore

end ApiDrift.Command
