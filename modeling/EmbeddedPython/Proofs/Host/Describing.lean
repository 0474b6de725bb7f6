import EmbeddedPython.Host.Translation

/-
  What a translation says

  An exception is told by the name of its type and by its text. Either is what
  the interpreter answers when the host asks for it, or a placeholder where the
  question fails. A failure that has no exception is told by an error of its own.
-/

namespace EmbeddedPython

namespace Eval

/-- The text of an object, as the host reads it. -/
def hostText (m : Machine) (r : Ref) : Eval String := do utf8Of (← strObject m r)

/-- The name of a type, as the host reads it. -/
def hostTypeName (m : Machine) (cls : Ref) : Eval String := do hostText m (← getAttr m cls "__name__")

/-- What comes of a question asked in a memory, and the memory after it: the answer, or a placeholder
where the question fails, however much goes on in the interpreter about that. -/
inductive Tells (question : Eval String) (placeholder : String) (m : Memory) : String → Memory → Prop
  | answer {s : String} {n : Memory} (run : question.run m = (.ok s, n)) :
      Tells question placeholder m s n
  | failure {e : Ref} {k n : Memory} (run : question.run m = (.error e, k)) (later : k.Evolves n) :
      Tells question placeholder m placeholder n

theorem Tells.evolves {question : Eval String} {placeholder s : String} {m n : Memory}
    (h : question.Tells placeholder m s n) : m.Evolves n := by
  have evolves := question.evolves m
  cases h with
  | answer run => rwa [run] at evolves
  | failure run later =>
    rw [run] at evolves
    exact evolves.trans later

end Eval

namespace PythonError

/-- What a failure is told by that has no exception. -/
def unexplained : PythonError := ⟨"SystemError", "a Python call failed without setting an exception"⟩

/-- Whether an error tells an exception that was pending in the memory `m`; `n` is the memory after
telling it. -/
inductive Describes (e : PythonError) (p : Pending) (m n : Memory) : Prop
  | intro {cls value : Ref} {made named : Memory}
      (normal : (Eval.normalize Machine.top p).run m = (.ok (cls, value), made))
      (typeName : (Eval.hostTypeName Machine.top cls).Tells unknownType made e.typeName named)
      (message : (Eval.hostText Machine.top value).Tells unprintable named e.message n)

theorem Describes.evolves {e : PythonError} {p : Pending} {m n : Memory} (h : e.Describes p m n) :
    m.Evolves n := by
  obtain ⟨normal, typeName, message⟩ := h
  have made := (Eval.normalize Machine.top p).evolves m
  rw [normal] at made
  exact made.trans (typeName.evolves.trans message.evolves)

end PythonError

end EmbeddedPython
