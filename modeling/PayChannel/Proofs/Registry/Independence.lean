import Mathlib
import PayChannel.Proofs.Registry.Consistency
import PayChannel.Proofs.Registry.Emission
import PayChannel.Proofs.Registry.Reopening
import PayChannel.Proofs.Registry.Writes

/-!
# Operations on independent pairs

An operation on one channel reads what the registry keeps for that pair and for its sender, and the
height.  It writes there too, and besides it only pays the receiver and logs events.  So two
operations commute if neither sender has a part in the other pair: they do not see each other's
writes, and payments commute even to one receiver.  Only the log tells which one came first.

* `Folio`, `folio`    what a registry over a balance sheet keeps for a pair and its sender;
* `Deed`, `enact`    what an operation on a pair does, with `enact_comm`;
* `Does`, `exists_deed`    an operation does the same wherever the folio is the same;
* `operations_commute`    two operations in either order.
-/

set_option linter.unusedSectionVars false

namespace PayChannel

/-- the pair that an operation on one channel is about -/
def Operation.pair? : Operation → Option Ends
  | .openChannel sender receiver _ _ => some ⟨sender, receiver⟩
  | .addBalance sender receiver _ => some ⟨sender, receiver⟩
  | .claim sender receiver _ _ _ => some ⟨sender, receiver⟩
  | .closeChannel _ sender receiver => some ⟨sender, receiver⟩
  | _ => none

/-- the sender of either pair has no part in the other one; the receivers may be the same -/
structure Ends.Independent (x y : Ends) : Prop where
  senders : x.sender ≠ y.sender
  sender_ne_receiver : x.sender ≠ y.receiver
  receiver_ne_sender : y.sender ≠ x.receiver

theorem Ends.Independent.symm {x y : Ends} (h : x.Independent y) : y.Independent x :=
  ⟨h.senders.symm, h.receiver_ne_sender, h.sender_ne_receiver⟩

theorem Ends.Independent.ne {x y : Ends} (h : x.Independent y) : x ≠ y :=
  fun he => h.senders (congrArg Ends.sender he)

namespace Registry

/-! ## Folios -/

/-- what is kept for a pair, and what its sender has locked and free; what is not listed is none -/
structure Folio where
  channel : Option Channel
  nonce : Option Nonce
  session : Option SessionId
  locked : Option Amount
  free : Option Amount

def folio (r : Registry BalanceSheet) (ends : Ends) : Folio where
  channel := r.channels.get? ends
  nonce := r.nonces.get? ends
  session := r.sessions.get? ends
  locked := r.locked.get? ends.sender
  free := r.ledger.balances.get? ends.sender

def refile (r : Registry BalanceSheet) (ends : Ends) (f : Folio) : Registry BalanceSheet :=
  { r with
    ledger := { r.ledger with balances := r.ledger.balances.assign ends.sender f.free }
    channels := r.channels.assign ends f.channel
    nonces := r.nonces.assign ends f.nonce
    sessions := r.sessions.assign ends f.session
    locked := r.locked.assign ends.sender f.locked }

def pay (r : Registry BalanceSheet) (ends : Ends) (amount : Amount) : Registry BalanceSheet :=
  ({ r with ledger := r.ledger.credit ends.receiver amount } : Registry BalanceSheet).recordPayment
    ends.sender ends.receiver amount

section
variable (r : Registry BalanceSheet) {x y : Ends} (f g : Folio) (a b : Amount)

theorem refile_folio (x : Ends) : r.refile x (r.folio x) = r := by
  unfold refile folio
  dsimp only
  rw [Table.assign_eq_self rfl, Table.assign_eq_self rfl, Table.assign_eq_self rfl,
    Table.assign_eq_self rfl, Table.assign_eq_self rfl]

theorem refile_comm (h : x.Independent y) :
    (r.refile x f).refile y g = (r.refile y g).refile x f := by
  unfold refile
  dsimp only
  rw [Table.assign_comm _ h.senders, Table.assign_comm _ h.ne, Table.assign_comm _ h.ne,
    Table.assign_comm _ h.ne, Table.assign_comm _ h.senders]

theorem pay_refile (h : x.Independent y) :
    (r.refile x f).pay y a = (r.pay y a).refile x f := by
  have hfree : (r.refile x f).ledger.free y.receiver = r.ledger.free y.receiver :=
    congrArg (fun v : Option Amount => v.getD Word.zero)
      (Table.get?_assign_of_ne _ _ (Ne.symm h.sender_ne_receiver))
  have hcredit : (r.refile x f).ledger.credit y.receiver a
      = { r.ledger.credit y.receiver a with
          balances := (r.ledger.credit y.receiver a).balances.assign x.sender f.free } := by
    unfold BalanceSheet.credit
    rw [hfree]
    exact congrArg (fun t => (⟨t, r.ledger.height⟩ : BalanceSheet))
      (Table.assign_comm _ h.sender_ne_receiver f.free (some ((r.ledger.free y.receiver).satAdd a)))
  unfold pay
  rw [hcredit]
  rfl

theorem recordPayment_comm (sender sender' receiver receiver' : Account) :
    (r.recordPayment sender receiver a).recordPayment sender' receiver' b
      = (r.recordPayment sender' receiver' b).recordPayment sender receiver a := by
  have hinsert : ∀ known : Table Account Unit, (known.insert sender ()).insert sender' ()
      = (known.insert sender' ()).insert sender () := by
    intro known
    apply Table.ext_get?
    intro k
    rw [Table.get?_insert, Table.get?_insert, Table.get?_insert, Table.get?_insert]
    split <;> split <;> rfl
  unfold recordPayment
  dsimp only
  rw [Table.get?_insert, Table.get?_insert, Table.get?_insert, Table.get?_insert]
  by_cases hr : receiver' = receiver
  · subst hr
    rw [if_pos rfl, if_pos rfl, if_pos rfl, if_pos rfl]
    have hwrite : ∀ {ν : Type} (t : Table Account ν) (v w : ν),
        (t.insert receiver' v).insert receiver' w = t.insert receiver' w :=
      fun t v w => t.assign_assign receiver' (some v) (some w)
    rw [hwrite, hwrite, hwrite, hwrite]
    dsimp only [Option.getD_some]
    rw [Word.satAdd_right_comm, hinsert]
  · have hwrite : ∀ {ν : Type} (t : Table Account ν) (v w : ν),
        (t.insert receiver v).insert receiver' w = (t.insert receiver' w).insert receiver v :=
      fun t v w => t.assign_comm (Ne.symm hr) (some v) (some w)
    rw [if_neg hr, if_neg hr, if_neg (Ne.symm hr), if_neg (Ne.symm hr), hwrite, hwrite]

theorem pay_comm (x y : Ends) : (r.pay x a).pay y b = (r.pay y b).pay x a := by
  have hledger : ∀ (q : Registry BalanceSheet) (ledger : BalanceSheet) (z : Ends) (c : Amount),
      ({ q.recordPayment z.sender z.receiver c with ledger } : Registry BalanceSheet)
        = ({ q with ledger } : Registry BalanceSheet).recordPayment z.sender z.receiver c :=
    fun _ _ _ _ => rfl
  show ({ (r.recordPayment x.sender x.receiver a) with
      ledger := (r.ledger.credit x.receiver a).credit y.receiver b } :
        Registry BalanceSheet).recordPayment y.sender y.receiver b
    = ({ (r.recordPayment y.sender y.receiver b) with
      ledger := (r.ledger.credit y.receiver b).credit x.receiver a } :
        Registry BalanceSheet).recordPayment x.sender x.receiver a
  rw [BalanceSheet.credit_comm, hledger, hledger, recordPayment_comm]

end

/-! ## Deeds -/

/-- what an operation on a pair does: the folio it leaves, what it pays the receiver, if it pays, and
the events it logs -/
structure Deed where
  folio : Folio
  paid : Option Amount
  events : List Event

/-- the registry after a deed, its log apart -/
def settle (r : Registry BalanceSheet) (ends : Ends) (d : Deed) : Registry BalanceSheet :=
  d.paid.elim (r.refile ends d.folio) fun amount => (r.refile ends d.folio).pay ends amount

def enact (r : Registry BalanceSheet) (ends : Ends) (d : Deed) : Registry BalanceSheet :=
  { r.settle ends d with events := d.events.foldl logged r.events }

section
variable (r : Registry BalanceSheet) {x y : Ends} (d e : Deed)

theorem folio_refile_of_independent (h : x.Independent y) (f : Folio) :
    (r.refile y f).folio x = r.folio x := by
  unfold folio refile
  dsimp only
  rw [Table.get?_assign_of_ne _ _ h.ne, Table.get?_assign_of_ne _ _ h.ne,
    Table.get?_assign_of_ne _ _ h.ne, Table.get?_assign_of_ne _ _ h.senders,
    Table.get?_assign_of_ne _ _ h.senders]

theorem folio_pay_of_independent (h : x.Independent y) (amount : Amount) :
    (r.pay y amount).folio x = r.folio x := by
  have hfree : (r.pay y amount).ledger.balances.get? x.sender
      = r.ledger.balances.get? x.sender :=
    Table.get?_insert_of_ne _ _ h.sender_ne_receiver
  unfold folio
  rw [hfree]
  rfl

/-- a deed on one pair is not seen in the folio of an independent one -/
theorem folio_enact_of_independent (h : x.Independent y) :
    (r.enact y e).folio x = r.folio x := by
  show (r.settle y e).folio x = r.folio x
  unfold settle
  cases e.paid with
  | none => exact r.folio_refile_of_independent h e.folio
  | some amount =>
    exact (folio_pay_of_independent _ h amount).trans (r.folio_refile_of_independent h e.folio)

theorem height_enact (x : Ends) : (r.enact x d).height = r.height := by
  show (r.settle x d).height = r.height
  unfold settle
  cases d.paid with
  | none => rfl
  | some amount => rfl

theorem settle_comm (h : x.Independent y) :
    (r.settle x d).settle y e = (r.settle y e).settle x d := by
  unfold settle
  cases d.paid with
  | none =>
    cases e.paid with
    | none => exact r.refile_comm _ _ h
    | some b =>
      dsimp only [Option.elim_none, Option.elim_some]
      rw [r.refile_comm _ _ h, pay_refile _ _ _ h]
  | some a =>
    cases e.paid with
    | none =>
      dsimp only [Option.elim_none, Option.elim_some]
      rw [← pay_refile _ _ _ h.symm, r.refile_comm _ _ h]
    | some b =>
      dsimp only [Option.elim_some]
      rw [← pay_refile _ _ _ h.symm, ← pay_refile _ _ _ h, pay_comm, r.refile_comm _ _ h]

theorem enact_enact (x y : Ends) :
    (r.enact x d).enact y e = { (r.settle x d).settle y e with
      events := e.events.foldl logged (d.events.foldl logged r.events) } := by
  unfold enact settle
  rcases d.paid with _ | a <;> rcases e.paid with _ | b <;> rfl

/-- of deeds on independent pairs only the log tells which one came first -/
theorem enact_comm (h : x.Independent y) :
    (r.enact x d).enact y e = { (r.enact y e).enact x d with
      events := e.events.foldl logged (d.events.foldl logged r.events) } := by
  rw [r.enact_enact d e, r.enact_enact e d, r.settle_comm d e h]

end

/-! ## What operations do -/

/-- an operation answers this and does that, wherever the folio of its pair and the height are as
they are here -/
def Does (S : SignatureScheme) (r : Registry BalanceSheet) (ends : Ends) (operation : Operation)
    (answer : Answer) (d : Deed) : Prop :=
  ∀ q : Registry BalanceSheet, q.folio ends = r.folio ends → q.height = r.height →
    q.perform S operation = (answer, q.enact ends d)

/-- an operation does one deed, which logs what it emits -/
def HasDeed (S : SignatureScheme) (r : Registry BalanceSheet) (ends : Ends)
    (operation : Operation) : Prop :=
  ∃ answer d, d.events = r.emittedBy operation answer ∧ Does S r ends operation answer d

section
variable {S : SignatureScheme} {q r : Registry BalanceSheet} {ends : Ends}

theorem free_of_folio (h : q.folio ends = r.folio ends) :
    q.ledger.free ends.sender = r.ledger.free ends.sender :=
  congrArg (fun f => f.free.getD Word.zero) h

theorem totalLocked_of_folio (h : q.folio ends = r.folio ends) :
    q.totalLocked ends.sender = r.totalLocked ends.sender :=
  congrArg (fun f => f.locked.getD Word.zero) h

theorem balanceAt_of_folio (h : q.folio ends = r.folio ends) :
    q.balanceAt ends = r.balanceAt ends :=
  congrArg (fun f => (f.channel.map Channel.balance).getD Word.zero) h

theorem staleChannel_of_folio (h : q.folio ends = r.folio ends) (hheight : q.height = r.height) :
    q.staleChannel ends = r.staleChannel ends := by
  have hchannel : q.channels.get? ends = r.channels.get? ends := congrArg Folio.channel h
  unfold staleChannel
  rw [hchannel, hheight]

theorem lastSession_of_folio (h : q.folio ends = r.folio ends) :
    q.lastSession ends = r.lastSession ends :=
  congrArg (fun f => f.session.getD Word.zero) h

theorem channel_of_folio (h : q.folio ends = r.folio ends) :
    q.channels.get? ends = r.channels.get? ends :=
  congrArg Folio.channel h

theorem hasDeed_of_refused {operation : Operation} (refusal : Refusal)
    (h : ∀ q : Registry BalanceSheet, q.folio ends = r.folio ends → q.height = r.height →
      q.perform S operation = (.refused refusal, q)) : HasDeed S r ends operation := by
  refine ⟨.refused refusal, ⟨r.folio ends, none, []⟩, (r.emittedBy_refused _ _).symm, ?_⟩
  intro q hfolio hheight
  have hsame : q.enact ends ⟨r.folio ends, none, []⟩ = q := by
    rw [← hfolio]
    exact q.refile_folio ends
  rw [h q hfolio hheight, hsame]

theorem nonces_of_folio (h : q.folio ends = r.folio ends) :
    q.nonces.assign ends (r.folio ends).nonce = q.nonces :=
  Table.assign_eq_self (congrArg Folio.nonce h)

theorem sessions_of_folio (h : q.folio ends = r.folio ends) :
    q.sessions.assign ends (r.folio ends).session = q.sessions :=
  Table.assign_eq_self (congrArg Folio.session h)

theorem balances_of_folio (h : q.folio ends = r.folio ends) :
    q.ledger.balances.assign ends.sender (r.folio ends).free = q.ledger.balances :=
  Table.assign_eq_self (congrArg Folio.free h)

theorem eq_enact {r' : Registry BalanceSheet} {d : Deed}
    (ledger : r'.ledger = (q.settle ends d).ledger)
    (channels : r'.channels = (q.settle ends d).channels)
    (nonces : r'.nonces = (q.settle ends d).nonces)
    (sessions : r'.sessions = (q.settle ends d).sessions)
    (locked : r'.locked = (q.settle ends d).locked) (paid : r'.paid = (q.settle ends d).paid)
    (clients : r'.clients = (q.settle ends d).clients)
    (events : r'.events = d.events.foldl logged q.events) : r' = q.enact ends d := by
  unfold enact
  dsimp only
  rw [← ledger, ← channels, ← nonces, ← sessions, ← locked, ← paid, ← clients, ← events]

end

/-! ## Funding and claiming -/

section
variable {S : SignatureScheme} {r : Registry BalanceSheet} {sender receiver : Account} {c : Channel}
  {amount : Amount}

theorem does_funded {balance : Amount} (hc : r.channels.get? ⟨sender, receiver⟩ = some c)
    (hlive : c.isExpired r.height = false) (hsum : c.balance.checkedAdd? amount = some balance)
    (hfree : amount.val ≤ (r.ledger.free sender).val) :
    Does S r ⟨sender, receiver⟩ (.addBalance sender receiver amount)
      (.funded { c with balance })
      ⟨{ r.folio ⟨sender, receiver⟩ with
          channel := some { c with balance }
          locked := some ((r.totalLocked sender).satAdd amount)
          free := some ((r.ledger.free sender).satSub amount) }, none,
        [.funded sender receiver amount r.height]⟩ := by
  intro q hfolio hheight
  have hq := (channel_of_folio hfolio).trans hc
  have hlocked : q.totalLocked sender = r.totalLocked sender := totalLocked_of_folio hfolio
  have hbalance : q.ledger.free sender = r.ledger.free sender := free_of_folio hfolio
  have hdebit : Ledger.debit q.ledger sender amount
      = (true, q.ledger.setBalance sender ((r.ledger.free sender).satSub amount)) := by
    rw [← hbalance] at hfree ⊢
    exact q.ledger.debit_of_le sender hfree
  have hadd : q.addBalance sender receiver amount = (.ok { c with balance },
      (({ q with
        ledger := q.ledger.setBalance sender ((r.ledger.free sender).satSub amount)
        channels := q.channels.insert ⟨sender, receiver⟩ { c with balance } } :
        Registry BalanceSheet).lock sender amount).emit
          (.funded sender receiver amount r.height)) := by
    simp [addBalance, hq, hheight, hlive, hsum, hdebit]
  rw [perform, hadd, ← hlocked]
  exact congrArg (Prod.mk _) (eq_enact rfl rfl (nonces_of_folio hfolio).symm
    (sessions_of_folio hfolio).symm rfl rfl rfl rfl)

theorem hasDeed_addBalance (r : Registry BalanceSheet) (sender receiver : Account)
    (amount : Amount) : HasDeed S r ⟨sender, receiver⟩ (.addBalance sender receiver amount) := by
  cases hc : r.channels.get? ⟨sender, receiver⟩ with
  | none =>
    refine hasDeed_of_refused .notFound fun q hfolio _ => ?_
    have hq := (channel_of_folio hfolio).trans hc
    simp [perform, addBalance, hq, Answer.ofResult]
  | some c =>
    cases hdue : c.isExpired r.height with
    | true =>
      refine hasDeed_of_refused .expired fun q hfolio hheight => ?_
      have hq := (channel_of_folio hfolio).trans hc
      simp [perform, addBalance, hq, hheight, hdue, Answer.ofResult]
    | false =>
      cases hsum : c.balance.checkedAdd? amount with
      | none =>
        refine hasDeed_of_refused .balanceOverflow fun q hfolio hheight => ?_
        have hq := (channel_of_folio hfolio).trans hc
        simp [perform, addBalance, hq, hheight, hdue, hsum, Answer.ofResult]
      | some balance =>
        by_cases hfree : amount.val ≤ (r.ledger.free sender).val
        · exact ⟨_, _, rfl, does_funded hc hdue hsum hfree⟩
        · refine hasDeed_of_refused .insufficientFunds fun q hfolio hheight => ?_
          have hq := (channel_of_folio hfolio).trans hc
          have hdebit : Ledger.debit q.ledger sender amount = (false, q.ledger) := by
            rw [← free_of_folio hfolio] at hfree
            have hsub : (q.ledger.free sender).checkedSub? amount = none := if_neg hfree
            show q.ledger.debit sender amount = _
            rw [BalanceSheet.debit, hsub]
          simp [perform, addBalance, hq, hheight, hdue, hsum, hdebit, Answer.ofResult]

theorem does_redeemed {sessionId : SessionId} {signature : Bytes} {remaining : Amount}
    (hc : r.channels.get? ⟨sender, receiver⟩ = some c) (hlive : c.isExpired r.height = false)
    (hverified : S.verifyVoucher sender receiver c.nonce sessionId amount signature = true)
    (hfresh : ¬ sessionId ≤ r.lastSession ⟨sender, receiver⟩)
    (hrest : c.balance.checkedSub? amount = some remaining) :
    Does S r ⟨sender, receiver⟩ (.claim sender receiver sessionId amount signature)
      (.redeemed ⟨sender, receiver, sessionId, amount, remaining⟩)
      ⟨{ r.folio ⟨sender, receiver⟩ with
          channel := some { c with balance := remaining }
          session := some sessionId
          locked := unlocked (r.locked.get? sender) amount }, some amount,
        [.claimed sender receiver sessionId amount]⟩ := by
  intro q hfolio hheight
  have hq := (channel_of_folio hfolio).trans hc
  have hlocked : q.locked.get? sender = r.locked.get? sender := congrArg Folio.locked hfolio
  rw [← lastSession_of_folio hfolio] at hfresh
  have hclaim : q.claim S sender receiver sessionId amount signature
      = (.ok ⟨sender, receiver, sessionId, amount, remaining⟩,
        ((({ q with
          channels := q.channels.insert ⟨sender, receiver⟩ { c with balance := remaining }
          sessions := q.sessions.insert ⟨sender, receiver⟩ sessionId
          ledger := Ledger.credit q.ledger receiver amount } :
          Registry BalanceSheet).unlock sender amount).recordPayment sender receiver
            amount).emit (.claimed sender receiver sessionId amount)) := by
    simp [claim, hq, hheight, hlive, hverified, hfresh, hrest]
  rw [perform, hclaim, unlock_eq_assign, ← hlocked]
  refine congrArg (Prod.mk _) (eq_enact ?_ rfl (nonces_of_folio hfolio).symm rfl rfl rfl rfl rfl)
  show q.ledger.credit receiver amount
    = (⟨q.ledger.balances.assign sender (r.folio ⟨sender, receiver⟩).free, q.ledger.height⟩ :
      BalanceSheet).credit receiver amount
  rw [balances_of_folio hfolio]

theorem hasDeed_claim (r : Registry BalanceSheet) (sender receiver : Account)
    (sessionId : SessionId) (amount : Amount) (signature : Bytes) :
    HasDeed S r ⟨sender, receiver⟩ (.claim sender receiver sessionId amount signature) := by
  cases hc : r.channels.get? ⟨sender, receiver⟩ with
  | none =>
    refine hasDeed_of_refused .notFound fun q hfolio _ => ?_
    have hq := (channel_of_folio hfolio).trans hc
    simp [perform, claim, hq, Answer.ofResult]
  | some c =>
    cases hdue : c.isExpired r.height with
    | true =>
      refine hasDeed_of_refused .expired fun q hfolio hheight => ?_
      have hq := (channel_of_folio hfolio).trans hc
      simp [perform, claim, hq, hheight, hdue, Answer.ofResult]
    | false =>
      cases hverified : S.verifyVoucher sender receiver c.nonce sessionId amount signature with
      | false =>
        refine hasDeed_of_refused .invalidSignature fun q hfolio hheight => ?_
        have hq := (channel_of_folio hfolio).trans hc
        simp [perform, claim, hq, hheight, hdue, hverified, Answer.ofResult]
      | true =>
        by_cases hstale : sessionId ≤ r.lastSession ⟨sender, receiver⟩
        · refine hasDeed_of_refused .staleSession fun q hfolio hheight => ?_
          have hq := (channel_of_folio hfolio).trans hc
          rw [← lastSession_of_folio hfolio] at hstale
          simp [perform, claim, hq, hheight, hdue, hverified, hstale, Answer.ofResult]
        · cases hrest : c.balance.checkedSub? amount with
          | none =>
            refine hasDeed_of_refused .insufficientBalance fun q hfolio hheight => ?_
            have hq := (channel_of_folio hfolio).trans hc
            rw [← lastSession_of_folio hfolio] at hstale
            simp [perform, claim, hq, hheight, hdue, hverified, hstale, hrest, Answer.ofResult]
          | some remaining =>
            exact ⟨_, _, rfl, does_redeemed hc hdue hverified hstale hrest⟩

end

/-! ## Closing and opening -/

section
variable {S : SignatureScheme} {r : Registry BalanceSheet}

theorem hasDeed_closeChannel (hf : r.Filed) (caller sender receiver : Account) :
    HasDeed S r ⟨sender, receiver⟩ (.closeChannel caller sender receiver) := by
  by_cases hparty : caller ≠ sender ∧ caller ≠ receiver
  · refine hasDeed_of_refused .unauthorized fun q _ _ => ?_
    rw [perform, closeChannel, if_pos hparty]
    rfl
  cases hc : r.channels.get? ⟨sender, receiver⟩ with
  | none =>
    refine hasDeed_of_refused .notFound fun q hfolio _ => ?_
    rw [perform, closeChannel, if_neg hparty, close_of_none ((channel_of_folio hfolio).trans hc)]
    rfl
  | some c =>
    have hsender : c.sender = sender := congrArg Ends.sender (hf _ c hc)
    refine ⟨.closed [closingOf c r.height], ⟨⟨none, some (c.nonce.satAdd Word.one), none,
        unlocked (r.locked.get? sender) c.balance,
        some ((r.ledger.free sender).satAdd c.balance)⟩, none,
      [.closed c.sender c.receiver c.balance r.height]⟩, rfl, fun q hfolio hheight => ?_⟩
    have hlocked : q.locked.get? sender = r.locked.get? sender := congrArg Folio.locked hfolio
    have hbalance : q.ledger.free sender = r.ledger.free sender := free_of_folio hfolio
    rw [perform, closeChannel, if_neg hparty,
      close_eq_writes ((channel_of_folio hfolio).trans hc), hsender, ← hheight, ← hlocked,
      ← hbalance]
    exact congrArg (Prod.mk _) (eq_enact rfl rfl rfl rfl rfl rfl rfl rfl)

theorem exists_folio_cleared (hf : r.Filed) (ends : Ends) :
    ∃ f : Folio, ∀ q : Registry BalanceSheet, q.folio ends = r.folio ends → q.height = r.height →
      q.cleared ends
        = { q.refile ends f with events := (r.displaced ends).foldl logged q.events } := by
  cases hc : r.channels.get? ends with
  | none =>
    refine ⟨r.folio ends, fun q hfolio _ => ?_⟩
    rw [cleared_of_none ((channel_of_folio hfolio).trans hc), displaced_of_none hc, ← hfolio,
      q.refile_folio]
    rfl
  | some c =>
    refine ⟨⟨none, some (c.nonce.satAdd Word.one), none,
      unlocked (r.locked.get? ends.sender) c.balance, (r.folio ends).free⟩, fun q hfolio hheight => ?_⟩
    have hsender : c.sender = ends.sender := congrArg Ends.sender (hf ends c hc)
    have hlocked : q.locked.get? ends.sender = r.locked.get? ends.sender :=
      congrArg Folio.locked hfolio
    have hevent : Event.closed ends.sender c.receiver c.balance q.height
        = (closingOf c r.height).event := by
      rw [← hsender, hheight]
      rfl
    unfold cleared refile
    rw [retire_eq_writes ((channel_of_folio hfolio).trans hc), displaced_of_get? hc, hsender,
      hevent, ← hlocked]
    dsimp only
    rw [balances_of_folio hfolio]
    rfl

theorem does_opened {sender receiver : Account} {amount : Amount} {duration expiresAt : Height}
    {f : Folio} (hends : sender ≠ receiver) (hexp : expiry? r.height duration = some expiresAt)
    (hstale : r.staleChannel ⟨sender, receiver⟩ = .ok (r.channels.get? ⟨sender, receiver⟩))
    (hcover : amount ≤ (r.ledger.free sender).satAdd (r.balanceAt ⟨sender, receiver⟩))
    (hcleared : ∀ q : Registry BalanceSheet,
      q.folio ⟨sender, receiver⟩ = r.folio ⟨sender, receiver⟩ → q.height = r.height →
      q.cleared ⟨sender, receiver⟩ = { q.refile ⟨sender, receiver⟩ f with
        events := (r.displaced ⟨sender, receiver⟩).foldl logged q.events }) :
    let channel : Channel :=
      { sender, receiver, balance := amount, nonce := f.nonce.getD Word.zero,
        openedAt := r.height, expiresAt }
    Does S r ⟨sender, receiver⟩ (.openChannel sender receiver amount duration) (.opened channel)
      ⟨{ f with
          channel := some channel
          locked := some ((f.locked.getD Word.zero).satAdd amount)
          free := some (settled (r.ledger.free sender) amount
            (r.balanceAt ⟨sender, receiver⟩)) }, none,
        r.displaced ⟨sender, receiver⟩ ++ [.opened channel]⟩ := by
  intro channel q hfolio hheight
  have hbalance : q.ledger.free sender = r.ledger.free sender := free_of_folio hfolio
  let cleared : Registry BalanceSheet := { q.refile ⟨sender, receiver⟩ f with
    events := (r.displaced ⟨sender, receiver⟩).foldl logged q.events }
  have hnonce : cleared.nextNonce ⟨sender, receiver⟩ = channel.nonce := by
    show ((q.nonces.assign _ f.nonce).get? _).getD Word.zero = _
    rw [Table.get?_assign, if_pos rfl]
  have hlocked : cleared.totalLocked sender = f.locked.getD Word.zero := by
    show ((q.locked.assign _ f.locked).get? _).getD Word.zero = _
    rw [Table.get?_assign, if_pos rfl]
  rw [← hheight] at hexp
  rw [← staleChannel_of_folio hfolio hheight, ← channel_of_folio hfolio] at hstale
  rw [← hbalance, ← balanceAt_of_folio hfolio] at hcover
  rw [perform, openChannel_of_settled hends hexp hstale (Nat.not_lt.mpr hcover)
    (settleLock_of_covered hcover), hcleared q hfolio hheight, hbalance,
    balanceAt_of_folio hfolio, hheight]
  show (Answer.opened { channel with nonce := cleared.nextNonce ⟨sender, receiver⟩ },
    ({ cleared.place { channel with nonce := cleared.nextNonce ⟨sender, receiver⟩ } with
      ledger := q.ledger.setBalance sender (settled (r.ledger.free sender) amount
        (r.balanceAt ⟨sender, receiver⟩)) } : Registry BalanceSheet)) = _
  rw [hnonce]
  refine congrArg (Prod.mk _) (eq_enact rfl (Table.insert_assign _ _ _ _) rfl rfl ?_ rfl rfl ?_)
  · show cleared.locked.insert sender ((cleared.totalLocked sender).satAdd amount) = _
    rw [hlocked]
    exact Table.insert_assign _ _ _ _
  · exact (List.foldl_concat logged q.events (.opened channel) _).symm

theorem hasDeed_openChannel (hf : r.Filed) (sender receiver : Account) (amount : Amount)
    (duration : Height) :
    HasDeed S r ⟨sender, receiver⟩ (.openChannel sender receiver amount duration) := by
  by_cases hends : sender = receiver
  · refine hasDeed_of_refused .sameEnds fun q _ _ => ?_
    rw [perform, openChannel, if_pos hends]
    rfl
  cases hexp : expiry? r.height duration with
  | none =>
    refine hasDeed_of_refused .invalidDuration fun q _ hheight => ?_
    simp [perform, openChannel, hends, hheight, hexp, Answer.ofResult]
  | some expiresAt =>
    cases hstale : r.staleChannel ⟨sender, receiver⟩ with
    | error refusal =>
      refine hasDeed_of_refused refusal fun q hfolio hheight => ?_
      rw [← staleChannel_of_folio hfolio hheight] at hstale
      simp [perform, openChannel, hends, hheight, hexp, hstale, Answer.ofResult]
    | ok stale =>
      obtain ⟨rfl, -⟩ := staleChannel_eq_ok hstale
      by_cases hcover : (r.ledger.free sender).satAdd (r.balanceAt ⟨sender, receiver⟩) < amount
      · refine hasDeed_of_refused .insufficientFunds fun q hfolio hheight => ?_
        rw [← hheight] at hexp
        rw [← staleChannel_of_folio hfolio hheight, ← channel_of_folio hfolio] at hstale
        rw [← free_of_folio hfolio, ← balanceAt_of_folio hfolio] at hcover
        rw [perform, openChannel_of_uncovered hends hexp hstale hcover]
        rfl
      · obtain ⟨f, hcleared⟩ := exists_folio_cleared hf ⟨sender, receiver⟩
        exact ⟨_, _, rfl, does_opened hends hexp hstale (Nat.not_lt.mp hcover) hcleared⟩

/-- an operation on a pair does one deed -/
theorem exists_deed (hf : r.Filed) {operation : Operation} {ends : Ends}
    (h : operation.pair? = some ends) : HasDeed S r ends operation := by
  cases operation with
  | openChannel sender receiver amount duration =>
    cases h
    exact hasDeed_openChannel hf sender receiver amount duration
  | addBalance sender receiver amount =>
    cases h
    exact hasDeed_addBalance r sender receiver amount
  | claim sender receiver sessionId amount signature =>
    cases h
    exact hasDeed_claim r sender receiver sessionId amount signature
  | closeChannel caller sender receiver =>
    cases h
    exact hasDeed_closeChannel hf caller sender receiver
  | closeExpired | sweep | takeEvents | drainStatistics => cases h

end

/-! ## The log -/

theorem length_displaced_le (r : Registry BalanceSheet) (ends : Ends) :
    (r.displaced ends).length ≤ 1 := by
  unfold displaced
  cases r.channels.get? ends with
  | none => exact Nat.zero_le 1
  | some c => exact Nat.le_refl 1

theorem length_emittedBy_le (S : SignatureScheme) (r : Registry BalanceSheet)
    {operation : Operation} {ends : Ends} (h : operation.pair? = some ends) :
    (r.emittedBy operation (r.perform S operation).1).length ≤ 2 := by
  cases operation with
  | openChannel sender receiver amount duration =>
    show (r.emittedBy _ (.ofResult .opened
      (r.openChannel sender receiver amount duration).1)).length ≤ 2
    cases (r.openChannel sender receiver amount duration).1 with
    | error refusal => exact Nat.zero_le 2
    | ok channel =>
      show (r.displaced ⟨sender, receiver⟩ ++ [Event.opened channel]).length ≤ 2
      rw [List.length_append]
      exact Nat.succ_le_succ (r.length_displaced_le _)
  | addBalance sender receiver amount =>
    show (r.emittedBy _ (.ofResult .funded (r.addBalance sender receiver amount).1)).length ≤ 2
    cases (r.addBalance sender receiver amount).1 with
    | error refusal => exact Nat.zero_le 2
    | ok channel => exact Nat.le_succ 1
  | claim sender receiver sessionId amount signature =>
    show (r.emittedBy _ (.ofResult .redeemed
      (r.claim S sender receiver sessionId amount signature).1)).length ≤ 2
    cases (r.claim S sender receiver sessionId amount signature).1 with
    | error refusal => exact Nat.zero_le 2
    | ok receipt => exact Nat.le_succ 1
  | closeChannel caller sender receiver =>
    show (r.emittedBy _ (.ofResult (fun closing => .closed [closing])
      (r.closeChannel caller sender receiver).1)).length ≤ 2
    cases (r.closeChannel caller sender receiver).1 with
    | error refusal => exact Nat.zero_le 2
    | ok closing => exact Nat.le_succ 1
  | closeExpired | sweep | takeEvents | drainStatistics => cases h

theorem foldl_logged_of_le {events more : List Event} (h : events.length ≤ eventCapacity)
    (hmore : more.length ≤ eventCapacity) :
    more.foldl logged events
      = events.drop (events.length + more.length - eventCapacity) ++ more := by
  have hnewest : newest events = events := by
    rw [newest, Nat.sub_eq_zero_of_le h, List.drop_zero]
  have hlogged := foldl_logged events more
  rw [hnewest] at hlogged
  rw [hlogged, newest, List.length_append, List.drop_append_of_le_length (by omega)]

/-- a log keeps the few events that come in and drops as many older ones, in whichever order they
come -/
theorem exists_kept {events ps qs : List Event} (h : events.length ≤ eventCapacity)
    (hps : ps.length ≤ 2) (hqs : qs.length ≤ 2) :
    ∃ kept, kept <:+ events ∧
      qs.foldl logged (ps.foldl logged events) = kept ++ ps ++ qs ∧
      ps.foldl logged (qs.foldl logged events) = kept ++ qs ++ ps := by
  have hcap : 4 ≤ eventCapacity := by decide
  have hlen : (ps ++ qs).length = ps.length + qs.length := List.length_append
  have hlen' : (qs ++ ps).length = ps.length + qs.length :=
    List.length_append.trans (Nat.add_comm _ _)
  refine ⟨events.drop (events.length + (ps.length + qs.length) - eventCapacity),
    List.drop_suffix _ _, ?_, ?_⟩
  · rw [← List.foldl_append, foldl_logged_of_le h (by omega), hlen, List.append_assoc]
  · rw [← List.foldl_append, foldl_logged_of_le h (by omega), hlen', List.append_assoc]

theorem length_events_run {β : Type} (S : SignatureScheme)
    (change : β → BalanceSheet → BalanceSheet) (sheet : BalanceSheet) (moves : List (Move β)) :
    ((ofLedger sheet).after S change moves).events.length ≤ eventCapacity := by
  rw [events_run, newest, List.length_drop]
  omega

/-! ## Two operations -/

/-- what comes second does not notice what came first -/
theorem perform_of_independent {S : SignatureScheme} {r : Registry BalanceSheet} {x y : Ends}
    {q : Operation} {answer : Answer} {d e : Deed} (h : x.Independent y)
    (hq : Does S r y q answer e) : (r.enact x d).perform S q = (answer, (r.enact x d).enact y e) :=
  hq _ (r.folio_enact_of_independent d h.symm) (r.height_enact d x)

/-- operations on pairs of which neither sender has a part in the other one commute: each answers
the same, and all is the same afterwards, but for the order of the last events -/
theorem operations_commute {β : Type} (S : SignatureScheme)
    (change : β → BalanceSheet → BalanceSheet) (sheet : BalanceSheet) (moves : List (Move β))
    (p q : Operation) {x y : Ends} (hp : p.pair? = some x) (hq : q.pair? = some y)
    (h : x.Independent y) :
    let r := (ofLedger sheet).after S change moves
    let pq := (r.perform S p).2.perform S q
    let qp := (r.perform S q).2.perform S p
    let ps := r.emittedBy p (r.perform S p).1
    let qs := r.emittedBy q (r.perform S q).1
    qp.1 = (r.perform S p).1 ∧ pq.1 = (r.perform S q).1 ∧ qp.2.unlogged = pq.2.unlogged ∧
      ∃ kept, kept <:+ r.events ∧
        pq.2.events = kept ++ ps ++ qs ∧ qp.2.events = kept ++ qs ++ ps := by
  intro r pq qp ps qs
  have hf : r.Filed :=
    run_induction S change (P := fun _ r => r.Filed) (filed_ofLedger sheet)
      (fun _ _ operation hf => filed_perform S hf operation) (fun _ _ _ hf => hf) moves
  obtain ⟨a, d, hd, hdoes⟩ := exists_deed (S := S) hf hp
  obtain ⟨b, e, he, hdoes'⟩ := exists_deed (S := S) hf hq
  have hfirst : r.perform S p = (a, r.enact x d) := hdoes r rfl rfl
  have hfirst' : r.perform S q = (b, r.enact y e) := hdoes' r rfl rfl
  have hpq : pq = (b, (r.enact x d).enact y e) := by
    show (r.perform S p).2.perform S q = _
    rw [hfirst]
    exact perform_of_independent h hdoes'
  have hqp : qp = (a, (r.enact y e).enact x d) := by
    show (r.perform S q).2.perform S p = _
    rw [hfirst']
    exact perform_of_independent h.symm hdoes
  have hps : ps = d.events := by
    show r.emittedBy p (r.perform S p).1 = _
    rw [hfirst, hd]
  have hqs : qs = e.events := by
    show r.emittedBy q (r.perform S q).1 = _
    rw [hfirst', he]
  obtain ⟨kept, hkept, hlog, hlog'⟩ := exists_kept (length_events_run S change sheet moves)
    (length_emittedBy_le S r hp) (length_emittedBy_le S r hq)
  refine ⟨(congrArg Prod.fst hqp).trans (congrArg Prod.fst hfirst).symm,
    (congrArg Prod.fst hpq).trans (congrArg Prod.fst hfirst').symm, ?_, kept, hkept, ?_, ?_⟩
  · rw [hqp, hpq, r.enact_comm e d h.symm]
    rfl
  · rw [hpq, ← hlog]
    show _ = qs.foldl logged (ps.foldl logged r.events)
    rw [hps, hqs]
    exact congrArg Registry.events (r.enact_enact d e x y)
  · rw [hqp, ← hlog']
    show _ = ps.foldl logged (qs.foldl logged r.events)
    rw [hps, hqs]
    exact congrArg Registry.events (r.enact_enact e d y x)

/-- two senders' claims to a receiver whose balance is cut off at the first of them: the receiver is
left with as much, and only the log tells which claim came first -/
theorem operations_commute_capped :
    let scheme : SignatureScheme := ⟨fun _ => .repeated 0, fun _ _ => List.replicate 64 0,
      fun _ _ _ => true, fun _ _ => List.length_replicate⟩
    let x : Ends := ⟨.repeated 1, .repeated 3⟩
    let y : Ends := ⟨.repeated 2, .repeated 3⟩
    let opening (ends : Ends) : Move Passage := .ask (.openChannel ends.sender ends.receiver
      ⟨30, by decide⟩ ⟨100, by decide⟩)
    let claiming (ends : Ends) (amount : Amount) : Operation :=
      .claim ends.sender ends.receiver Word.one amount []
    let p := claiming x ⟨10, by decide⟩
    let q := claiming y ⟨20, by decide⟩
    let sheet := BalanceSheet.ofList
      [(x.sender, ⟨30, by decide⟩), (y.sender, ⟨30, by decide⟩), (x.receiver, Word.max 128)]
    let r := (ofLedger sheet).after scheme BalanceSheet.pass [opening x, opening y]
    let pq := (r.perform scheme p).2.perform scheme q
    let qp := (r.perform scheme q).2.perform scheme p
    p.pair? = some x ∧ q.pair? = some y ∧ x.Independent y ∧
      pq.2.ledger.free x.receiver = Word.max 128 ∧
      pq.2.events.drop 2 = [.claimed x.sender x.receiver Word.one ⟨10, by decide⟩,
        .claimed y.sender y.receiver Word.one ⟨20, by decide⟩] ∧
      qp.2.events ≠ pq.2.events ∧ qp.2.unlogged = pq.2.unlogged := by
  intro scheme x y opening claiming p q sheet r pq qp
  have h : x.Independent y := ⟨by decide, by decide, by decide⟩
  obtain ⟨-, -, hsame, -⟩ :=
    operations_commute scheme BalanceSheet.pass sheet [opening x, opening y] p q rfl rfl h
  have hrun : pq.2.ledger.free x.receiver = Word.max 128 ∧
      pq.2.events.drop 2 = [.claimed x.sender x.receiver Word.one ⟨10, by decide⟩,
        .claimed y.sender y.receiver Word.one ⟨20, by decide⟩] ∧
      qp.2.events ≠ pq.2.events := by decide +kernel
  exact ⟨rfl, rfl, h, hrun.1, hrun.2.1, hrun.2.2, hsame⟩

end Registry
end PayChannel
