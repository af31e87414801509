import PayChannel.Word
import PayChannel.Account

/-!
# Ledgers

A ledger keeps the funds that channels are paid from and knows the current block height.  Money
leaves an account by a debit, which the ledger may refuse for reasons of its own, and enters it by
a credit, which it may not.

* `LawfulLedger`    a refused debit leaves the ledger as it was;
* `SteadyLedger`    moving money does not turn the height back.
-/

namespace PayChannel

/-- the operations of a ledger; a debit tells whether it was made -/
class Ledger (L : Type) where
  free : L → Account → Amount
  debit : L → Account → Amount → Bool × L
  credit : L → Account → Amount → L
  height : L → Height

/-- a refused debit leaves the ledger as it was -/
class LawfulLedger (L : Type) [Ledger L] : Prop where
  debit_refused : ∀ (l : L) (account : Account) (amount : Amount),
    (Ledger.debit l account amount).1 = false → (Ledger.debit l account amount).2 = l

/-- moving money does not turn the height back -/
class SteadyLedger (L : Type) [Ledger L] : Prop where
  height_debit : ∀ (l : L) (account : Account) (amount : Amount),
    Ledger.height l ≤ Ledger.height (Ledger.debit l account amount).2
  height_credit : ∀ (l : L) (account : Account) (amount : Amount),
    Ledger.height l ≤ Ledger.height (Ledger.credit l account amount)

def Ledger.refusalMessage : String := "insufficient free balance"

end PayChannel
