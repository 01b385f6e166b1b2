import TorrentSearch.Search.Work

/-!
# Orderly work

A check that asks for a lock while it has another one, or that ends with a lock, can keep other checks
waiting for ever. Orderly work does neither.
-/

namespace TorrentSearch.Search.Work

variable {α β : Type}

/-- Work that has nothing to do with locks and does not break down. -/
inductive Plain : Work α → Prop where
  | done (a : α) : Plain (.done a)
  | look {next : Shared → Work α} (h : ∀ s, Plain (next s)) : Plain (.look next)
  | change {next : Work α} (f : Shared → Shared) (h : Plain next) : Plain (.change f next)
  | pause {next : Work α} (millis : Nat) (h : Plain next) : Plain (.pause millis next)
  | request {next : Http.Reply → Work α} (url : String) (timeout : Nat) (h : ∀ r, Plain (next r)) :
      Plain (.request url timeout next)

/-- Work of a check that has the given lock, if any. It asks for a lock only when it has none, and it
ends and breaks down without a lock. -/
inductive Orderly : Option String → Work α → Prop where
  | done (a : α) : Orderly none (.done a)
  | crash (text : String) : Orderly none (.crash text)
  | look {held : Option String} {next : Shared → Work α} (h : ∀ s, Orderly held (next s)) :
      Orderly held (.look next)
  | change {held : Option String} {next : Work α} (f : Shared → Shared) (h : Orderly held next) :
      Orderly held (.change f next)
  | pause {held : Option String} {next : Work α} (millis : Nat) (h : Orderly held next) :
      Orderly held (.pause millis next)
  | request {held : Option String} {next : Http.Reply → Work α} (url : String) (timeout : Nat)
      (h : ∀ r, Orderly held (next r)) : Orderly held (.request url timeout next)
  | acquire {next : Work α} (lock : String) (h : Orderly (some lock) next) :
      Orderly none (.acquire lock next)
  | release {next : Work α} (lock : String) (h : Orderly none next) :
      Orderly (some lock) (.release lock next)

namespace Plain

theorem pure (a : α) : Plain (Pure.pure a : Work α) := .done a

theorem bind {w : Work α} {f : α → Work β} (hw : Plain w) (hf : ∀ a, Plain (f a)) :
    Plain (w >>= f) := by
  change Plain (Work.bind w f)
  induction hw with
  | done a => exact hf a
  | look _ ih => exact .look ih
  | change g _ ih => exact .change g ih
  | pause millis _ ih => exact .pause millis ih
  | request url timeout _ ih => exact .request url timeout ih

theorem consult (f : Shared → α × Shared) : Plain (consult f) :=
  .look fun _ => .change _ (.done _)

theorem update (f : Shared → Shared) : Plain (update f) := .change f (.done ())

theorem wait (millis : Nat) : Plain (wait millis) := .pause millis (.done ())

/-- Plain work is in order, whatever lock the check has, if the work behind it is. -/
theorem orderly_bind {held : Option String} {w : Work α} {f : α → Work β} (hw : Plain w)
    (hf : ∀ a, Orderly held (f a)) : Orderly held (w >>= f) := by
  change Orderly held (Work.bind w f)
  induction hw with
  | done a => exact hf a
  | look _ ih => exact .look ih
  | change g _ ih => exact .change g ih
  | pause millis _ ih => exact .pause millis ih
  | request url timeout _ ih => exact .request url timeout ih

theorem orderly {w : Work α} (hw : Plain w) : Orderly none w := by
  induction hw with
  | done a => exact .done a
  | look _ ih => exact .look ih
  | change g _ ih => exact .change g ih
  | pause millis _ ih => exact .pause millis ih
  | request url timeout _ ih => exact .request url timeout ih

theorem orderly_locked {w : Work α} (lock : String) (hw : Plain w) :
    Orderly none (locked lock w) :=
  .acquire lock (hw.orderly_bind fun a => .release lock (.done a))

end Plain

end TorrentSearch.Search.Work
