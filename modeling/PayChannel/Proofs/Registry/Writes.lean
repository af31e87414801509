import Mathlib
import PayChannel.Ledger.BalanceSheet
import PayChannel.Proofs.Registry.Bookkeeping

/-!
# Closing as writes to tables

All that happens to a table is that a key gets a value or loses it.  Said in this way, two writes to
different keys commute, and of two writes to one key the second one counts.  Closing a channel is one
write to each of five tables and a credit, and credits commute even where they are cut off.

* `Table.assign`    a key gets a value or loses it, with `assign_comm` and `assign_assign`;
* `unlocked`, `unlock_eq_assign`    unlocking is a write, and `unlocked_comm` that its order is free;
* `unlogged`    a registry apart from its log;
* `retire_eq_writes`, `close_eq_writes`    closing a channel, table by table;
* `BalanceSheet.credit_comm`    the order of credits is free.
-/

set_option linter.unusedSectionVars false

namespace PayChannel

/-! ## Writes to a table -/

namespace Table

variable {κ ν : Type} [ByteKey κ] [DecidableEq κ]

/-- the table in which a key has the value given, or none -/
def assign (t : Table κ ν) (k : κ) : Option ν → Table κ ν
  | none => t.erase k
  | some v => t.insert k v

variable (t : Table κ ν) {k k' : κ}

theorem get?_assign (k k' : κ) (v : Option ν) :
    (t.assign k v).get? k' = if k' = k then v else t.get? k' := by
  cases v with
  | none => exact get?_erase t k k'
  | some v => exact get?_insert t k k' v

theorem get?_assign_of_ne (v : Option ν) (h : k' ≠ k) : (t.assign k v).get? k' = t.get? k' := by
  rw [get?_assign, if_neg h]

theorem assign_assign (k : κ) (v w : Option ν) : (t.assign k v).assign k w = t.assign k w := by
  apply ext_get?
  intro j
  rw [get?_assign, get?_assign, get?_assign]
  split <;> rfl

theorem insert_assign (k : κ) (v : Option ν) (w : ν) : (t.assign k v).insert k w = t.insert k w :=
  t.assign_assign k v (some w)

theorem assign_comm (h : k ≠ k') (v w : Option ν) :
    (t.assign k v).assign k' w = (t.assign k' w).assign k v := by
  apply ext_get?
  intro j
  rw [get?_assign, get?_assign, get?_assign, get?_assign]
  by_cases hj : j = k
  · rw [if_pos hj, if_neg (hj ▸ h), if_pos hj]
  · rw [if_neg hj, if_neg hj]

variable {t}

theorem assign_eq_self {v : Option ν} (h : t.get? k = v) : t.assign k v = t := by
  apply ext_get?
  intro j
  rw [get?_assign]
  split
  · rename_i hj
    rw [hj, h]
  · rfl

end Table

/-! ## Money -/

theorem Word.satAdd_right_comm {bits : Nat} (a b c : Word bits) :
    (a.satAdd b).satAdd c = (a.satAdd c).satAdd b := by
  apply Word.ext
  simp only [Word.val_satAdd]
  omega

theorem Word.satSub_right_comm {bits : Nat} (a b c : Word bits) :
    (a.satSub b).satSub c = (a.satSub c).satSub b :=
  Word.ext (Nat.sub_right_comm a.val b.val c.val)

/-- the order of two credits is free, also where they go to one account and are cut off -/
theorem BalanceSheet.credit_comm (s : BalanceSheet) (a b : Account) (x y : Amount) :
    (s.credit a x).credit b y = (s.credit b y).credit a x := by
  have hset : ∀ (s : BalanceSheet) (a : Account) (x : Amount),
      s.credit a x = ⟨s.balances.assign a (some ((s.free a).satAdd x)), s.height⟩ :=
    fun _ _ _ => rfl
  by_cases hab : a = b
  · subst hab
    rw [hset (s.credit a x), hset (s.credit a y), free_credit, free_credit, if_pos rfl, if_pos rfl,
      hset s, hset s]
    dsimp only
    rw [Table.assign_assign, Table.assign_assign, Word.satAdd_right_comm]
  · rw [hset (s.credit a x), hset (s.credit b y), free_credit, free_credit, if_neg (Ne.symm hab),
      if_neg hab, hset s, hset s]
    dsimp only
    rw [Table.assign_comm _ hab]

namespace Registry

variable {L : Type}

/-- what is left of locked funds when an amount is unlocked; where nothing is left, nothing is
listed -/
def unlocked (locked : Option Amount) (amount : Amount) : Option Amount :=
  locked.bind fun total =>
    if (total.satSub amount).val = 0 then none else some (total.satSub amount)

theorem unlocked_unlocked (locked : Option Amount) (x y : Amount) :
    unlocked (unlocked locked x) y = locked.bind fun total =>
      if ((total.satSub x).satSub y).val = 0 then none else some ((total.satSub x).satSub y) := by
  cases locked with
  | none => rfl
  | some total =>
    unfold unlocked
    rw [Option.bind_some, Option.bind_some]
    by_cases hx : (total.satSub x).val = 0
    · have hxy : ((total.satSub x).satSub y).val = 0 := by
        rw [Word.val_satSub, hx, Nat.zero_sub]
      rw [if_pos hx, if_pos hxy, Option.bind_none]
    · rw [if_neg hx, Option.bind_some]

theorem unlocked_comm (locked : Option Amount) (x y : Amount) :
    unlocked (unlocked locked x) y = unlocked (unlocked locked y) x := by
  rw [unlocked_unlocked, unlocked_unlocked]
  congr 1
  funext total
  rw [Word.satSub_right_comm]

theorem unlock_eq_assign (r : Registry L) (a : Account) (amount : Amount) :
    r.unlock a amount
      = { r with locked := r.locked.assign a (unlocked (r.locked.get? a) amount) } := by
  unfold unlock unlocked
  cases hlocked : r.locked.get? a with
  | none =>
    dsimp only
    rw [Option.bind_none, Table.assign_eq_self hlocked]
  | some total =>
    dsimp only
    rw [Option.bind_some]
    by_cases hrest : (total.satSub amount).val = 0
    · rw [if_pos hrest, if_pos hrest]
      rfl
    · rw [if_neg hrest, if_neg hrest]
      rfl

/-! ## Closing -/

/-- the registry apart from its log -/
def unlogged (r : Registry L) : Registry L :=
  { r with events := [] }

theorem retire_eq_writes {r : Registry L} {ends : Ends} {c : Channel}
    (h : r.channels.get? ends = some c) (now : Height) :
    r.retire ends now = (some (closingOf c now), { r with
      channels := r.channels.erase ends
      nonces := r.nonces.insert ends (c.nonce.satAdd Word.one)
      sessions := r.sessions.erase ends
      locked := r.locked.assign c.sender (unlocked (r.locked.get? c.sender) c.balance)
      events := logged r.events (.closed c.sender c.receiver c.balance now) }) := by
  simp only [retire, h, unlock_eq_assign]
  rfl

theorem close_eq_writes [Ledger L] {r : Registry L} {ends : Ends} {c : Channel}
    (h : r.channels.get? ends = some c) (now : Height) :
    r.close ends now = (some (closingOf c now), { r with
      ledger := Ledger.credit r.ledger c.sender c.balance
      channels := r.channels.erase ends
      nonces := r.nonces.insert ends (c.nonce.satAdd Word.one)
      sessions := r.sessions.erase ends
      locked := r.locked.assign c.sender (unlocked (r.locked.get? c.sender) c.balance)
      events := logged r.events (.closed c.sender c.receiver c.balance now) }) := by
  rw [close, retire_eq_writes h]
  rfl

end Registry
end PayChannel
