import Mathlib
import PayChannel.Ledger.BalanceSheet
import PayChannel.Proofs.Ledger.Issuance
import PayChannel.Proofs.Registry.Filing

/-!
# Opening over an expired channel

Opening a channel where an expired one still stands gives its balance back in the same step: what is
paid to the ledger, or comes from it, is the difference between the new amount and the refund.  Over
a balance sheet that is the same as closing the old channel first and opening the new one then.
Only if free balance and refund together pass the largest amount does the ledger tell the two apart,
because a refund on its own is cut off there.

* `settleLock_of_covered`    a settlement that can be spent is made, and what it leaves;
* `settleLock_credit`    paying the difference is crediting the refund and paying the amount;
* `close_eq_cleared`    closing is clearing the place of the channel, and the refund;
* `reopen_eq_close_open`    one step and two, for every answer.
-/

set_option linter.unusedSectionVars false

namespace PayChannel

/-! ## Settlements on a balance sheet -/

namespace BalanceSheet

variable (s : BalanceSheet) (a : Account)

theorem setBalance_setBalance (x y : Amount) :
    (s.setBalance a x).setBalance a y = s.setBalance a y := by
  unfold setBalance
  congr 1
  apply Table.ext_get?
  intro b
  rw [Table.get?_insert, Table.get?_insert, Table.get?_insert]
  by_cases hb : b = a
  · rw [if_pos hb, if_pos hb]
  · rw [if_neg hb, if_neg hb, if_neg hb]

theorem debit_of_le {x : Amount} (h : x.val ≤ (s.free a).val) :
    s.debit a x = (true, s.setBalance a ((s.free a).satSub x)) := by
  have hsub : (s.free a).checkedSub? x = some ((s.free a).satSub x) := if_pos h
  rw [debit, hsub]

end BalanceSheet

theorem Amount.satAdd_zero (x : Amount) : x.satAdd Word.zero = x :=
  Word.clip_val x

namespace Registry

section
variable {s : BalanceSheet} {sender : Account} {amount refund : Amount}

theorem settleLock_of_le (h : refund.val ≤ amount.val) :
    settleLock s sender amount refund = s.debit sender (amount.satSub refund) :=
  if_pos h

theorem settleLock_of_lt (h : ¬ refund.val ≤ amount.val) :
    settleLock s sender amount refund = (true, s.credit sender (refund.satSub amount)) :=
  if_neg h

def settled (free amount refund : Amount) : Amount :=
  if refund.val ≤ amount.val then free.satSub (amount.satSub refund)
  else free.satAdd (refund.satSub amount)

/-- what free balance and refund cover can be settled, also where their sum is cut off -/
theorem settleLock_of_covered (h : amount ≤ (s.free sender).satAdd refund) :
    settleLock s sender amount refund
      = (true, s.setBalance sender (settled (s.free sender) amount refund)) := by
  rw [Word.le_iff, Word.val_satAdd] at h
  unfold settled
  by_cases hle : refund.val ≤ amount.val
  · have hpay : (amount.satSub refund).val ≤ (s.free sender).val := by
      rw [Word.val_satSub]
      omega
    rw [settleLock_of_le hle, s.debit_of_le sender hpay, if_pos hle]
  · rw [settleLock_of_lt hle, if_neg hle]
    rfl

theorem settleLock_made (h : amount ≤ (s.free sender).satAdd refund) :
    ∃ s', settleLock s sender amount refund = (true, s') :=
  ⟨_, settleLock_of_covered h⟩

/-- a refund that is not cut off may as well be there before -/
theorem settled_satAdd {free : Amount} (hfit : free.val + refund.val < 2 ^ 128)
    (h : amount ≤ free.satAdd refund) :
    settled (free.satAdd refund) amount Word.zero = settled free amount refund := by
  have hsum := Amount.val_satAdd_of_lt hfit
  rw [Word.le_iff, hsum] at h
  unfold settled
  rw [if_pos (show (Word.zero : Amount).val ≤ amount.val from Nat.zero_le _)]
  split
  · apply Word.ext
    simp only [Word.val_satSub, hsum, Word.val_zero]
    omega
  · have hback : free.val + (refund.satSub amount).val < 2 ^ 128 := by
      rw [Word.val_satSub]
      omega
    apply Word.ext
    rw [Amount.val_satAdd_of_lt hback]
    simp only [Word.val_satSub, hsum, Word.val_zero]
    omega

/-- paying the difference to a refund comes to the same as getting the refund and paying all -/
theorem settleLock_credit (hfit : (s.free sender).val + refund.val < 2 ^ 128)
    (h : amount ≤ (s.free sender).satAdd refund) :
    settleLock s sender amount refund
      = settleLock (s.credit sender refund) sender amount Word.zero := by
  have hfree : (s.credit sender refund).free sender = (s.free sender).satAdd refund := by
    rw [BalanceSheet.free_credit, if_pos rfl]
  have hcover : amount ≤ ((s.credit sender refund).free sender).satAdd Word.zero := by
    rw [hfree, Amount.satAdd_zero]
    exact h
  rw [settleLock_of_covered h, settleLock_of_covered hcover, hfree, settled_satAdd hfit h]
  exact congrArg (Prod.mk true) (s.setBalance_setBalance sender _ _).symm

end

/-! ## Closing and opening again -/

section
variable {L : Type} [Ledger L] {r : Registry L} {ends : Ends} {c : Channel}

theorem close_eq_cleared (hc : r.channels.get? ends = some c) :
    r.close ends r.height = (some (closingOf c r.height),
      { r.cleared ends with ledger := Ledger.credit r.ledger c.sender c.balance }) := by
  have hpair : r.retire ends r.height = (some (closingOf c r.height), r.cleared ends) :=
    Prod.ext (retire_of_get? hc r.height).1 rfl
  have hledger : (r.cleared ends).ledger = r.ledger := r.ledger_retire ends r.height
  rw [close, hpair]
  dsimp only
  rw [hledger]
  rfl

theorem get?_channels_cleared_self (r : Registry L) (ends : Ends) :
    (r.cleared ends).channels.get? ends = none := by
  rw [cleared, get?_channels_retire, if_pos rfl]

theorem staleChannel_of_due (hc : r.channels.get? ends = some c)
    (hdue : c.isExpired r.height = true) : r.staleChannel ends = .ok (r.channels.get? ends) := by
  rw [staleChannel, hc]
  exact if_pos hdue

theorem staleChannel_of_none (hc : r.channels.get? ends = none) :
    r.staleChannel ends = .ok (r.channels.get? ends) := by
  rw [staleChannel, hc]

theorem openChannel_of_uncovered {sender receiver : Account} {amount : Amount}
    {duration expiresAt : Height} (hends : sender ≠ receiver)
    (hexp : expiry? r.height duration = some expiresAt)
    (hstale : r.staleChannel ⟨sender, receiver⟩ = .ok (r.channels.get? ⟨sender, receiver⟩))
    (hfree : (Ledger.free r.ledger sender).satAdd (r.balanceAt ⟨sender, receiver⟩) < amount) :
    r.openChannel sender receiver amount duration = (.error .insufficientFunds, r) := by
  simp only [openChannel, if_neg hends, hexp, hstale]
  exact if_pos hfree

/-- a registry in which a place has been cleared, with a channel put there -/
def place (r : Registry L) (channel : Channel) : Registry L :=
  ({ r with channels := r.channels.insert channel.ends channel }.lock channel.sender
    channel.balance).emit (.opened channel)

theorem openChannel_of_settled {sender receiver : Account} {amount : Amount}
    {duration expiresAt : Height} {ledger : L} (hends : sender ≠ receiver)
    (hexp : expiry? r.height duration = some expiresAt)
    (hstale : r.staleChannel ⟨sender, receiver⟩ = .ok (r.channels.get? ⟨sender, receiver⟩))
    (hfree : ¬ (Ledger.free r.ledger sender).satAdd (r.balanceAt ⟨sender, receiver⟩) < amount)
    (hsettled : settleLock r.ledger sender amount (r.balanceAt ⟨sender, receiver⟩)
      = (true, ledger)) :
    r.openChannel sender receiver amount duration
      = let q := r.cleared ⟨sender, receiver⟩
        let channel : Channel :=
          { sender, receiver, balance := amount, nonce := q.nextNonce ⟨sender, receiver⟩,
            openedAt := r.height, expiresAt }
        (.ok channel, { q.place channel with ledger }) := by
  rw [openChannel_of_checks hends hexp hstale hfree, hsettled]
  rfl

end

/-- opening over an expired channel, and opening after it has been closed: refused for the same
reason, or accepted with the same channel and the same tables -/
theorem reopen_cases {r : Registry BalanceSheet} (hf : r.Filed) {sender receiver : Account}
    {c : Channel} (hc : r.channels.get? ⟨sender, receiver⟩ = some c)
    (hdue : c.isExpired r.height = true) (amount : Amount) (duration : Height) :
    (∃ refusal, r.openChannel sender receiver amount duration = (.error refusal, r) ∧
      (r.close ⟨sender, receiver⟩ r.height).2.openChannel sender receiver amount duration
        = (.error refusal, (r.close ⟨sender, receiver⟩ r.height).2)) ∨
    ∃ channel r' ledger, r.openChannel sender receiver amount duration = (.ok channel, r') ∧
      (r.close ⟨sender, receiver⟩ r.height).2.openChannel sender receiver amount duration
        = (.ok channel, { r' with ledger }) ∧
      ((r.ledger.free sender).val + c.balance.val < 2 ^ 128 → ledger = r'.ledger) := by
  have hclose : (r.close ⟨sender, receiver⟩ r.height).2
      = { r.cleared ⟨sender, receiver⟩ with ledger := r.ledger.credit sender c.balance } := by
    have hsender : c.sender = sender := congrArg Ends.sender (hf _ c hc)
    rw [close_eq_cleared hc, hsender]
    rfl
  rw [hclose]
  -- `q` is the registry between closing and opening
  obtain ⟨q, hq⟩ : ∃ q : Registry BalanceSheet, q = { r.cleared ⟨sender, receiver⟩ with
    ledger := r.ledger.credit sender c.balance } := ⟨_, rfl⟩
  rw [← hq]
  have hheight : q.height = r.height := by
    rw [hq]
    rfl
  have hledger : q.ledger = r.ledger.credit sender c.balance := by rw [hq]
  have hvacant : q.channels.get? ⟨sender, receiver⟩ = none := by
    rw [hq]
    exact r.get?_channels_cleared_self _
  have hspend : (Ledger.free q.ledger sender).satAdd (q.balanceAt ⟨sender, receiver⟩)
      = (Ledger.free r.ledger sender).satAdd (r.balanceAt ⟨sender, receiver⟩) := by
    rw [balanceAt_of_none hvacant, balanceAt_of_get? hc, Amount.satAdd_zero, hledger]
    exact (BalanceSheet.free_credit _ _ _ _).trans (if_pos rfl)
  by_cases hends : sender = receiver
  · exact .inl ⟨.sameEnds, if_pos hends, if_pos hends⟩
  cases hexp : expiry? r.height duration with
  | none =>
    exact .inl ⟨.invalidDuration, by simp only [openChannel, if_neg hends, hexp],
      by simp only [openChannel, if_neg hends, hheight, hexp]⟩
  | some expiresAt =>
    have hexp' : expiry? q.height duration = some expiresAt := by rw [hheight, hexp]
    have hstale := staleChannel_of_due hc hdue
    have hstale' := staleChannel_of_none hvacant
    by_cases hcover : (Ledger.free r.ledger sender).satAdd (r.balanceAt ⟨sender, receiver⟩)
        < amount
    · exact .inl ⟨.insufficientFunds, openChannel_of_uncovered hends hexp hstale hcover,
        openChannel_of_uncovered hends hexp' hstale' (hspend ▸ hcover)⟩
    · have hcover' := hspend ▸ hcover
      obtain ⟨s, hs⟩ := settleLock_made (Nat.not_lt.mp hcover)
      obtain ⟨s', hs'⟩ := settleLock_made (Nat.not_lt.mp hcover')
      right
      rw [openChannel_of_settled hends hexp hstale hcover hs,
        openChannel_of_settled hends hexp' hstale' hcover' hs', cleared_of_none hvacant, hheight,
        hq]
      refine ⟨_, _, s', rfl, rfl, fun hfit => ?_⟩
      have hcredit := settleLock_credit hfit
        (by rw [← balanceAt_of_get? hc]; exact Nat.not_lt.mp hcover)
      rw [← balanceAt_of_get? hc, hs, balanceAt_of_get? hc, ← hledger,
        ← balanceAt_of_none hvacant, hs'] at hcredit
      exact (congrArg Prod.snd hcredit).symm

/-- whatever a registry over a balance sheet has been through: opening over an expired channel
answers as closing it and opening anew does, and if that is a refusal, it changes nothing.  After a
success all but the ledger is the same, and the ledger too as long as free balance and refund fit in
an amount. -/
theorem reopen_eq_close_open {β : Type} (S : SignatureScheme)
    (change : β → BalanceSheet → BalanceSheet) (sheet : BalanceSheet) (moves : List (Move β))
    (sender receiver : Account) (amount : Amount) (duration : Height) (c : Channel)
    (hopen : ((ofLedger sheet).after S change moves).channels.get? ⟨sender, receiver⟩ = some c)
    (hdue : c.isExpired ((ofLedger sheet).after S change moves).height = true) :
    let r := (ofLedger sheet).after S change moves
    let closed := r.closeChannel sender sender receiver
    let inOne := r.openChannel sender receiver amount duration
    let inTwo := closed.2.openChannel sender receiver amount duration
    closed.1 = .ok (closingOf c r.height) ∧ inOne.1 = inTwo.1 ∧
    (∀ refusal, inTwo.1 = .error refusal → inOne.2 = r) ∧
    (∀ channel, inTwo.1 = .ok channel → ∃ ledger, inOne.2 = { inTwo.2 with ledger }) ∧
    ((r.ledger.free sender).val + c.balance.val ≤ 2 ^ 128 - 1 →
      ∀ channel, inTwo.1 = .ok channel → inOne.2 = inTwo.2) := by
  intro r closed inOne inTwo
  have hfiled : r.Filed := run_induction S change (P := fun _ r => r.Filed) (filed_ofLedger sheet)
    (fun _ _ operation h => filed_perform S h operation) (fun _ _ _ h => h) moves
  have hclosed : closed
      = (.ok (closingOf c r.height), (r.close ⟨sender, receiver⟩ r.height).2) := by
    show r.closeChannel sender sender receiver = _
    rw [closeChannel, if_neg (fun h => h.1 rfl), close_eq_cleared hopen]
  have htwo : inTwo
      = (r.close ⟨sender, receiver⟩ r.height).2.openChannel sender receiver amount duration := by
    show closed.2.openChannel sender receiver amount duration = _
    rw [hclosed]
  refine ⟨congrArg Prod.fst hclosed, ?_⟩
  rw [htwo]
  rcases reopen_cases hfiled hopen hdue amount duration with
    ⟨refusal, hone, htwo⟩ | ⟨channel, r', ledger, hone, htwo, hfits⟩
  · rw [htwo, show inOne = _ from hone]
    refine ⟨rfl, fun _ _ => rfl, ?_, ?_⟩
    · rintro channel ⟨⟩
    · rintro _ channel ⟨⟩
  · rw [htwo, show inOne = _ from hone]
    refine ⟨rfl, ?_, fun _ _ => ⟨r'.ledger, rfl⟩, fun hfit _ _ => ?_⟩
    · rintro refusal ⟨⟩
    · rw [hfits (Nat.lt_succ_of_le hfit)]

/-- a channel of 100 out of 150 expires and is opened anew with 120: a debit of 20 does what a
refund of 100 and a debit of 120 do -/
theorem reopen_eq_close_open_netted :
    let ends : Ends := ⟨.repeated 1, .repeated 2⟩
    let sheet := BalanceSheet.ofList [(ends.sender, ⟨150, by decide⟩)]
    let moves : List (Move (BalanceSheet → BalanceSheet)) :=
      [.ask (.openChannel ends.sender ends.receiver ⟨100, by decide⟩ ⟨5, by decide⟩),
        .elapse fun s => s.advance ⟨5, by decide⟩]
    let r := (ofLedger sheet).after ed25519 id moves
    let closed := r.closeChannel ends.sender ends.sender ends.receiver
    let inOne := r.openChannel ends.sender ends.receiver ⟨120, by decide⟩ ⟨5, by decide⟩
    r.channels.get? ends
        = some ⟨ends.sender, ends.receiver, ⟨100, by decide⟩, Word.zero, Word.zero,
          ⟨5, by decide⟩⟩ ∧
      (closed.2.ledger.free ends.sender).val = 150 ∧
      inOne.2 = (closed.2.openChannel ends.sender ends.receiver ⟨120, by decide⟩
        ⟨5, by decide⟩).2 ∧
      (inOne.2.ledger.free ends.sender).val = 30 := by
  intro ends sheet moves r closed inOne
  let c : Channel := ⟨ends.sender, ends.receiver, ⟨100, by decide⟩, Word.zero, Word.zero,
    ⟨5, by decide⟩⟩
  let anew : Channel := ⟨ends.sender, ends.receiver, ⟨120, by decide⟩, ⟨1, by decide⟩,
    ⟨5, by decide⟩, ⟨10, by decide⟩⟩
  have hopen : r.channels.get? ends = some c := by decide +kernel
  obtain ⟨-, -, -, -, hsame⟩ := reopen_eq_close_open ed25519 id sheet moves ends.sender
    ends.receiver ⟨120, by decide⟩ ⟨5, by decide⟩ c hopen (by decide +kernel)
  have hanew : (closed.2.openChannel ends.sender ends.receiver ⟨120, by decide⟩
      ⟨5, by decide⟩).1 = .ok anew := by decide +kernel
  exact ⟨hopen, by decide +kernel, hsame (by decide +kernel) anew hanew, by decide +kernel⟩

end Registry
end PayChannel
