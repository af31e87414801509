import Mathlib
import PayChannel.Proofs.Ledger.Issuance
import PayChannel.Proofs.Registry.Filing

/-!
# What an account owns

An account owns its free balance and the balances of the channels it sends on.  A redeemed voucher
moves its amount from the one to the other account; no other operation changes what anybody owns.

* `inChannels_insert`, `inChannels_erase`    what the channel table does to the sums;
* `wealth`, `worth`    what one account owns, and what all own together;
* `settled_perform`    an operation moves what it reports as paid, and nothing else.
-/

set_option linter.unusedSectionVars false

namespace PayChannel

def paidBy (a : Account) : Operation → Answer → Nat
  | .claim sender _ _ amount _, .redeemed _ => if sender = a then amount.val else 0
  | _, _ => 0

def paidTo (a : Account) : Operation → Answer → Nat
  | .claim _ receiver _ amount _, .redeemed _ => if receiver = a then amount.val else 0
  | _, _ => 0

theorem paidBy_of_refused (a : Account) (operation : Operation) (refusal : Refusal) :
    paidBy a operation (.refused refusal) = 0 := by
  cases operation <;> rfl

theorem paidTo_of_refused (a : Account) (operation : Operation) (refusal : Refusal) :
    paidTo a operation (.refused refusal) = 0 := by
  cases operation <;> rfl

namespace Registry

variable {L : Type} [Ledger L]

/-- what an account has in a channel: the balance, if it is the sender -/
def stake (a : Account) (c : Channel) : Nat :=
  if c.sender = a then c.balance.val else 0

/-- the balances of the open channels that an account sends on -/
def inChannels (r : Registry L) (a : Account) : Nat :=
  r.channels.total (stake a)

def allInChannels (r : Registry L) : Nat :=
  r.channels.total fun c => c.balance.val

/-! ## Sums over the channel table -/

theorem weightAt_stake {r : Registry L} (hf : r.Filed) (a : Account) (ends : Ends) :
    r.channels.weightAt (stake a) ends
      = if ends.sender = a then (r.balanceAt ends).val else 0 := by
  cases h : r.channels.get? ends with
  | none =>
    rw [Table.weightAt_of_none _ h, balanceAt_of_none h, Word.val_zero]
    exact (ite_self 0).symm
  | some c =>
    rw [Table.weightAt_of_get? _ h, balanceAt_of_get? h, stake, ← hf ends c h]
    rfl

theorem weightAt_balance (r : Registry L) (ends : Ends) :
    r.channels.weightAt (fun c => c.balance.val) ends = (r.balanceAt ends).val := by
  cases h : r.channels.get? ends with
  | none =>
    rw [Table.weightAt_of_none _ h, balanceAt_of_none h]
    rfl
  | some c => rw [Table.weightAt_of_get? _ h, balanceAt_of_get? h]

theorem inChannels_insert {r r' : Registry L} {ends : Ends} {c : Channel} (hf : r.Filed)
    (hc : c.ends = ends) (h : r'.channels = r.channels.insert ends c) (a : Account) :
    r'.inChannels a + (if ends.sender = a then (r.balanceAt ends).val else 0)
      = r.inChannels a + if ends.sender = a then c.balance.val else 0 := by
  have hsum := r.channels.total_insert (stake a) ends c
  rw [weightAt_stake hf, ← h, stake] at hsum
  rw [← hc] at hsum ⊢
  exact hsum

theorem allInChannels_insert {r r' : Registry L} {ends : Ends} {c : Channel}
    (h : r'.channels = r.channels.insert ends c) :
    r'.allInChannels + (r.balanceAt ends).val = r.allInChannels + c.balance.val := by
  have hsum := r.channels.total_insert (fun c => c.balance.val) ends c
  rw [weightAt_balance, ← h] at hsum
  exact hsum

theorem inChannels_erase {r r' : Registry L} {ends : Ends} (hf : r.Filed)
    (h : r'.channels = r.channels.erase ends) (a : Account) :
    r'.inChannels a + (if ends.sender = a then (r.balanceAt ends).val else 0)
      = r.inChannels a := by
  have hsum := r.channels.total_erase (stake a) ends
  rw [weightAt_stake hf, ← h] at hsum
  exact hsum

theorem allInChannels_erase {r r' : Registry L} {ends : Ends}
    (h : r'.channels = r.channels.erase ends) :
    r'.allInChannels + (r.balanceAt ends).val = r.allInChannels := by
  have hsum := r.channels.total_erase (fun c => c.balance.val) ends
  rw [weightAt_balance, ← h] at hsum
  exact hsum

theorem balanceAt_le_inChannels {r : Registry L} (hf : r.Filed) (ends : Ends) :
    (r.balanceAt ends).val ≤ r.inChannels ends.sender := by
  have h := r.channels.weightAt_le_total (stake ends.sender) ends
  rw [weightAt_stake hf, if_pos rfl] at h
  exact h

theorem inChannels_le (r : Registry L) (a : Account) : r.inChannels a ≤ r.allInChannels := by
  apply Table.total_le_total
  intro c
  unfold stake
  split
  · exact Nat.le_refl _
  · exact Nat.zero_le _

/-! ## Wealth -/

def wealth (r : Registry BalanceSheet) (a : Account) : Nat :=
  (r.ledger.free a).val + r.inChannels a

def worth (r : Registry BalanceSheet) : Nat :=
  r.ledger.totalIssuance + r.allInChannels

theorem wealth_le_worth (r : Registry BalanceSheet) (a : Account) : r.wealth a ≤ r.worth :=
  Nat.add_le_add (r.ledger.free_le_totalIssuance a) (r.inChannels_le a)

theorem free_add_balanceAt_le {r : Registry BalanceSheet} (hf : r.Filed) (ends : Ends) :
    (r.ledger.free ends.sender).val + (r.balanceAt ends).val ≤ r.worth :=
  Nat.le_trans (Nat.add_le_add_left (balanceAt_le_inChannels hf ends) _)
    (r.wealth_le_worth ends.sender)

theorem free_add_balance_le (r : Registry BalanceSheet) (a : Account) (ends : Ends) :
    (r.ledger.free a).val + (r.balanceAt ends).val ≤ r.worth := by
  have h := r.channels.weightAt_le_total (fun c => c.balance.val) ends
  rw [weightAt_balance] at h
  exact Nat.add_le_add (r.ledger.free_le_totalIssuance a) h

/-- an operation has moved what it reports as paid, and nothing else -/
structure Settled (r : Registry BalanceSheet) (operation : Operation) (answer : Answer)
    (r' : Registry BalanceSheet) : Prop where
  worth : r'.worth = r.worth
  wealth : ∀ a, r'.wealth a + paidBy a operation answer = r.wealth a + paidTo a operation answer

theorem settleLock_settles {s s' : BalanceSheet} {sender : Account} {amount refund : Amount}
    (h : settleLock s sender amount refund = (true, s'))
    (hfit : (s.free sender).val + refund.val < 2 ^ 128) :
    s'.totalIssuance + amount.val = s.totalIssuance + refund.val ∧
      ∀ b, (s'.free b).val + (if b = sender then amount.val else 0)
        = (s.free b).val + if b = sender then refund.val else 0 := by
  obtain ⟨hle, hpaid⟩ | ⟨hlt, -, hgiven⟩ := settleLock_cases h
  · have htotal := BalanceSheet.totalIssuance_debit hpaid
    have hfree := BalanceSheet.val_free_debit hpaid
    rw [Word.val_satSub] at htotal hfree
    refine ⟨by omega, fun b => ?_⟩
    have hb := hfree b
    by_cases hs : b = sender
    · rw [if_pos hs] at hb ⊢
      rw [if_pos hs]
      omega
    · rw [if_neg hs] at hb ⊢
      rw [if_neg hs]
      omega
  · obtain rfl : s' = s.credit sender (refund.satSub amount) := hgiven
    have hx : (refund.satSub amount).val = refund.val - amount.val := Word.val_satSub _ _
    have hsum : (s.free sender).val + (refund.satSub amount).val < 2 ^ 128 := by omega
    have htotal := s.totalIssuance_credit sender (refund.satSub amount) hsum
    refine ⟨by omega, fun b => ?_⟩
    have hb := s.val_free_credit sender b (refund.satSub amount) hsum
    by_cases hs : b = sender
    · rw [if_pos hs] at hb ⊢
      rw [if_pos hs]
      omega
    · rw [if_neg hs] at hb ⊢
      rw [if_neg hs]
      omega

/-! ## Step by step -/

section
variable {r r' : Registry BalanceSheet} {sender receiver : Account} {amount : Amount}

theorem Opened.settles {duration : Height} {channel : Channel}
    (h : Opened r sender receiver amount duration channel r') (hf : r.Filed)
    (hw : r.worth < 2 ^ 128) :
    r'.ledger.totalIssuance + amount.val
        = r.ledger.totalIssuance + (r.balanceAt ⟨sender, receiver⟩).val ∧
      ∀ b, (r'.ledger.free b).val + (if b = sender then amount.val else 0)
        = (r.ledger.free b).val
          + if b = sender then (r.balanceAt ⟨sender, receiver⟩).val else 0 :=
  settleLock_settles h.settled (Nat.lt_of_le_of_lt (free_add_balanceAt_le hf ⟨sender, receiver⟩) hw)

theorem settled_opened {duration : Height} {channel : Channel} (hf : r.Filed)
    (hw : r.worth < 2 ^ 128) (h : Opened r sender receiver amount duration channel r') :
    Settled r (.openChannel sender receiver amount duration) (.opened channel) r' := by
  obtain ⟨htotal, hfree⟩ := h.settles hf hw
  have hall := allInChannels_insert h.channels
  rw [h.balance] at hall
  refine ⟨?_, fun a => ?_⟩
  · unfold worth
    omega
  · have hin := inChannels_insert hf h.ends h.channels a
    have ha := hfree a
    rw [h.balance] at hin
    show r'.wealth a + 0 = r.wealth a + 0
    unfold wealth
    by_cases hs : sender = a
    · rw [if_pos hs, if_pos hs] at hin
      rw [if_pos hs.symm, if_pos hs.symm] at ha
      omega
    · rw [if_neg hs, if_neg hs] at hin
      rw [if_neg (Ne.symm hs), if_neg (Ne.symm hs)] at ha
      omega

theorem settled_funded {c channel : Channel} (hf : r.Filed)
    (h : Funded r sender receiver amount c channel r') :
    Settled r (.addBalance sender receiver amount) (.funded channel) r' := by
  have hends : channel.ends = ⟨sender, receiver⟩ := by
    rw [h.channel_eq]
    exact hf _ c h.found
  have hall := allInChannels_insert h.channels
  have htotal := BalanceSheet.totalIssuance_debit h.debited
  have hbal := h.balance
  rw [balanceAt_of_get? h.found] at hall
  refine ⟨?_, fun a => ?_⟩
  · unfold worth
    omega
  · have hin := inChannels_insert hf hends h.channels a
    have ha := BalanceSheet.val_free_debit h.debited a
    rw [balanceAt_of_get? h.found] at hin
    show r'.wealth a + 0 = r.wealth a + 0
    unfold wealth
    by_cases hs : sender = a
    · rw [if_pos hs, if_pos hs] at hin
      rw [if_pos hs.symm] at ha
      omega
    · rw [if_neg hs, if_neg hs] at hin
      rw [if_neg (Ne.symm hs)] at ha
      omega

theorem settled_redeemed {S : SignatureScheme} {sessionId : SessionId} {signature : Bytes}
    {c : Channel} {receipt : Receipt} (hf : r.Filed) (hw : r.worth < 2 ^ 128)
    (h : Redeemed S r sender receiver sessionId amount signature c receipt r') :
    Settled r (.claim sender receiver sessionId amount signature) (.redeemed receipt) r' := by
  have hends : ({ c with balance := c.balance.satSub amount } : Channel).ends
      = ⟨sender, receiver⟩ := hf _ c h.found
  have hfit := r.free_add_balance_le receiver ⟨sender, receiver⟩
  have hcov := h.covered
  have hall := allInChannels_insert h.channels
  have hled : r'.ledger = r.ledger.credit receiver amount := h.ledger
  rw [balanceAt_of_get? h.found] at hall hfit
  have hsum : (r.ledger.free receiver).val + amount.val < 2 ^ 128 := by omega
  have hbal : (c.balance.satSub amount).val = c.balance.val - amount.val := Word.val_satSub _ _
  refine ⟨?_, fun a => ?_⟩
  · have htotal := r.ledger.totalIssuance_credit receiver amount hsum
    unfold worth
    rw [hled]
    dsimp only at hall
    omega
  · have hin := inChannels_insert hf hends h.channels a
    have ha := r.ledger.val_free_credit receiver a amount hsum
    rw [balanceAt_of_get? h.found] at hin
    dsimp only at hin
    show r'.wealth a + (if sender = a then amount.val else 0)
      = r.wealth a + if receiver = a then amount.val else 0
    unfold wealth
    have hr : (if a = receiver then amount.val else 0) = if receiver = a then amount.val else 0 :=
      if_congr eq_comm rfl rfl
    rw [hled, ha, hr]
    by_cases hs : sender = a
    · rw [if_pos hs, if_pos hs] at hin
      rw [if_pos hs]
      omega
    · rw [if_neg hs, if_neg hs] at hin
      rw [if_neg hs]
      omega

theorem settled_close {ends : Ends} {c : Channel} (hf : r.Filed) (hw : r.worth < 2 ^ 128)
    (hc : r.channels.get? ends = some c) (now : Height) :
    (r.close ends now).2.worth = r.worth ∧
      ∀ a, (r.close ends now).2.wealth a = r.wealth a := by
  obtain ⟨-, hledger, hret⟩ := close_of_get? hc now
  have hsender : c.sender = ends.sender := congrArg Ends.sender (hf ends c hc)
  have hled : (r.close ends now).2.ledger = r.ledger.credit ends.sender c.balance := by
    rw [hledger, hsender]
    rfl
  have hfit := free_add_balanceAt_le hf ends
  have hall := allInChannels_erase hret.channels
  rw [balanceAt_of_get? hc] at hfit hall
  have hsum : (r.ledger.free ends.sender).val + c.balance.val < 2 ^ 128 := by omega
  refine ⟨?_, fun a => ?_⟩
  · have htotal := r.ledger.totalIssuance_credit ends.sender c.balance hsum
    unfold worth
    rw [hled]
    omega
  · have hin := inChannels_erase hf hret.channels a
    have ha := r.ledger.val_free_credit ends.sender a c.balance hsum
    rw [balanceAt_of_get? hc] at hin
    have hs : (if a = ends.sender then c.balance.val else 0)
        = if ends.sender = a then c.balance.val else 0 := if_congr eq_comm rfl rfl
    unfold wealth
    rw [hled, ha, hs]
    omega

theorem settled_closeAll (hf : r.Filed) (hw : r.worth < 2 ^ 128) (now : Height)
    (keys : List Ends) :
    (r.closeAll now keys).2.worth = r.worth ∧
      ∀ a, (r.closeAll now keys).2.wealth a = r.wealth a := by
  have hkeep : (r.closeAll now keys).2.Filed ∧ (r.closeAll now keys).2.worth = r.worth ∧
      ∀ a, (r.closeAll now keys).2.wealth a = r.wealth a := by
    apply closeAll_keeps (P := fun q => q.Filed ∧ q.worth = r.worth ∧ ∀ a, q.wealth a = r.wealth a)
    · intro q ends c hq hc
      obtain ⟨hqf, hqw, hqa⟩ := hq
      obtain ⟨h2, h3⟩ := settled_close hqf (hqw ▸ hw) hc now
      exact ⟨filed_close hqf ends now, h2.trans hqw, fun a => (h3 a).trans (hqa a)⟩
    · exact ⟨hf, rfl, fun a => rfl⟩
  exact hkeep.2

end

theorem settled_refused (r : Registry BalanceSheet) (operation : Operation) (refusal : Refusal) :
    Settled r operation (.refused refusal) r := by
  refine ⟨rfl, fun a => ?_⟩
  rw [paidBy_of_refused, paidTo_of_refused]

/-- an operation moves what it reports as paid, and nothing else -/
theorem settled_perform (S : SignatureScheme) {r : Registry BalanceSheet} (hf : r.Filed)
    (hw : r.worth < 2 ^ 128) (operation : Operation) :
    Settled r operation (r.perform S operation).1 (r.perform S operation).2 := by
  obtain ⟨answer, r', hp, hout⟩ := exists_outcome S r operation
  rw [hp]
  cases hout with
  | refused operation refusal => exact settled_refused _ operation refusal
  | refusedDebit operation refusal account x ledger h =>
    rw [eq_of_refusedDebit h]
    exact settled_refused r operation refusal
  | opened sender receiver amount duration channel r' h => exact settled_opened hf hw h
  | funded sender receiver amount c channel r' h => exact settled_funded hf h
  | redeemed sender receiver sessionId amount signature c receipt r' h =>
    exact settled_redeemed hf hw h
  | closed caller sender receiver party =>
    obtain ⟨hworth, hwealth⟩ := settled_closeAll hf hw r.height [⟨sender, receiver⟩]
    exact ⟨hworth, hwealth⟩
  | closedExpired caller =>
    obtain ⟨hworth, hwealth⟩ :=
      settled_closeAll hf hw r.height (r.expiredEnds fun c => c.hasParty caller)
    exact ⟨hworth, hwealth⟩
  | swept =>
    obtain ⟨hworth, hwealth⟩ := settled_closeAll hf hw r.height (r.expiredEnds fun _ => true)
    exact ⟨hworth, hwealth⟩
  | tookEvents => exact ⟨rfl, fun a => rfl⟩
  | drained => exact ⟨rfl, fun a => rfl⟩

end Registry
end PayChannel
