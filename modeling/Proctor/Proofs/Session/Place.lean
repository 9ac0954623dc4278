import Proctor.Proofs.Session.Attempt
import Proctor.Session.Operation

/-!
# What a lookup leaves behind

To look a place up does nothing to a session but to speak in its journal, and what is found
there depends on the setting alone. So an operation at a place either goes on with the test
that is found or has only spoken.
-/

namespace Proctor

namespace Session

variable {s s' : Session} {t : TestInfo} {p : Place} {α : Type}
  {action : Session → TestInfo → Session × Except Error (Option α)}

@[simp] theorem setting_say (records : List Log.Record) :
    (s.say records).setting = s.setting := rfl

theorem say_say (records more : List Log.Record) :
    (s.say records).say more = s.say (records ++ more) := by
  simp [say, Engine.say]

theorem say_nil (s : Session) : s.say [] = s := by
  simp [say, Engine.say]

theorem locate_says (s : Session) (file : String) (lines : Option (List String)) (cursor : Int)
    (language : Option String) :
    ∃ records, (s.locate file lines cursor language).1 = s.say records := by
  unfold locate
  split
  · exact ⟨[], s.say_nil.symm⟩
  · exact ⟨_, say_say ..⟩

theorem locate_answer (s : Session) (file : String) (lines : Option (List String))
    (cursor : Int) (language : Option String) :
    (s.locate file lines cursor language).2 =
      s.source file lines language >>= fun source => source.nearest s.registry cursor := by
  unfold locate
  cases s.source file lines language <;> rfl

theorem found_congr (same : s'.setting = s.setting) : s'.found p = s.found p := by
  obtain ⟨registry, tree, -, -⟩ := Setting.mk.inj same
  rw [found, found, locate_answer, locate_answer, source, source, registry, tree]

theorem atPoint_of_found (found : s.found p = some t) :
    s.atPoint p.file p.lines p.cursor p.language action =
      action (s.locate p.file p.lines p.cursor p.language).1 t := by
  unfold Session.found at found
  unfold atPoint
  split <;> simp_all [Except.toOption]

theorem atPoint_says_of_missed (missed : s.found p = none) :
    ∃ records, (s.atPoint p.file p.lines p.cursor p.language action).1 = s.say records := by
  obtain ⟨said, located⟩ := s.locate_says p.file p.lines p.cursor p.language
  unfold found at missed
  unfold atPoint
  split
  · simp_all [Except.toOption]
  · simp_all only
    exact ⟨_, say_say ..⟩
  · simp_all only
    split
    · exact ⟨_, say_say ..⟩
    · exact ⟨said, rfl⟩

end Session

end Proctor
