import Mathlib
import PayChannel.Proofs.Net.Endpoints
import PayChannel.Proofs.Node.Storage
import PayChannel.Proofs.Spelling
import PayChannel.Proofs.Toml.Documents

/-!
# Configurations in files

A configuration that is kept in a file is the one that is loaded from it, with its accounts in their
order, however many there are and however often one is among them.  The numbers of a document have
64 bits with a sign, so a configuration with a larger number is refused instead of written.

* `legible_write`    an endpoint's text needs no escapes;
* `parse_write?`    the document of a configuration, read as entries;
* `exists_write?_iff`    which configurations have a document;
* `config_kept`    saving and loading, on every tree.
-/

set_option linter.unusedSectionVars false

namespace PayChannel

/-! ## The text of an endpoint -/

namespace Net

open Ascii Toml

theorem Address4.legible_write (a : Address4) : Legible a.write :=
  (((Legible.digits _).append (.cons (by decide) (.digits _))).append
    (.cons (by decide) (.digits _))).append (.cons (by decide) (.digits _))

theorem legible_writeGroup (g : Word 16) : Legible (writeGroup g) :=
  .of_isSome_digit? (writtenGroup g).digits

theorem legible_writeGroups (gs : List (Word 16)) : Legible (writeGroups gs) := by
  fun_induction writeGroups gs with
  | case1 => exact .nil
  | case2 g => exact legible_writeGroup g
  | case3 g gs _ ih => exact (legible_writeGroup g).append (.cons (by decide) ih)

theorem Address6.legible_write (a : Address6) : Legible a.write := by
  have hcolons : ∀ {bytes : Bytes}, Legible bytes → Legible (colon :: colon :: bytes) :=
    fun h => .cons (by decide) (.cons (by decide) h)
  unfold Address6.write
  split
  · rename_i v4 _
    exact (hcolons (legible_writeGroups _)).append (.cons (by decide) v4.legible_write)
  · dsimp only
    split
    · exact (legible_writeGroups _).append (hcolons (legible_writeGroups _))
    · exact legible_writeGroups _

theorem Endpoint.legible_write (e : Endpoint) : Legible e.write := by
  cases e with
  | v4 address number => exact address.legible_write.append (.cons (by decide) (.digits _))
  | v6 address zone number =>
    have hzone : Legible (zoneText zone) := by
      unfold zoneText
      split
      · exact .nil
      · exact .cons (by decide) (.digits _)
    rw [write_v6]
    exact .cons (by decide) (address.legible_write.append
      (hzone.append (.cons (by decide) (.cons (by decide) (.digits _)))))

end Net

/-! ## The document of a configuration -/

def GenesisAccount.entries (g : GenesisAccount) : Toml.Entries :=
  [("account", .text g.account.toHex), ("balance", .integer g.balance.val)]

theorem Toml.Value.word?_integer {bits : Nat} (w : Word bits) :
    word? bits (.integer w.val) = some w := by
  rw [word?, if_pos (Int.natCast_nonneg w.val), Int.toNat_natCast, Word.ofNat?_val]

namespace Config

def scalars (c : Config) : Toml.Entries :=
  [("listen", .text (Ascii.text c.listen.write)), ("block_time_ms", .integer c.blockTime.val),
    ("request_ttl_secs", .integer c.requestTtl.val)]

def genesisValue : List GenesisAccount → Toml.Value
  | [] => .list []
  | gs => .tables (gs.map (·.entries))

def entries (c : Config) : Toml.Entries :=
  c.scalars ++ [("genesis", genesisValue c.genesis)]

theorem genesisOfEntries?_entries (g : GenesisAccount) : genesisOfEntries? g.entries = some g := by
  have haccount : Toml.Table.get? g.entries "account" = some (.text g.account.toHex) := rfl
  have hbalance : Toml.Table.get? g.entries "balance" = some (.integer g.balance.val) := rfl
  have hparse : (Toml.Value.text g.account.toHex).account? = some g.account := by
    show (Account.parse g.account.toHex).toOption = _
    rw [Account.parse_toHex]
    rfl
  simp only [genesisOfEntries?, genesisOfValues?, haccount, hbalance, hparse, Toml.Value.word?_integer,
    Option.bind_eq_bind, Option.bind_some]

theorem genesisList?_genesisValue (gs : List GenesisAccount) :
    genesisList? (genesisValue gs) = some gs := by
  have htables : ∀ gs : List GenesisAccount,
      (gs.map (·.entries)).mapM genesisOfEntries? = some gs := by
    intro gs
    induction gs with
    | nil => rfl
    | cons g gs ih =>
      rw [List.map_cons, List.mapM_cons, genesisOfEntries?_entries, ih]
      rfl
  cases gs with
  | nil => rfl
  | cons g gs => exact htables (g :: gs)

theorem ofEntries?_entries (c : Config) : ofEntries? c.entries = some c := by
  have hlisten : Toml.Table.get? c.entries "listen" = some (.text (Ascii.text c.listen.write)) :=
    rfl
  have hblock : Toml.Table.get? c.entries "block_time_ms" = some (.integer c.blockTime.val) := rfl
  have hrequest : Toml.Table.get? c.entries "request_ttl_secs" = some (.integer c.requestTtl.val) :=
    rfl
  have hgenesis : Toml.Table.get? c.entries "genesis" = some (genesisValue c.genesis) := rfl
  simp only [ofEntries?, wordOr, hlisten, hblock, hrequest, hgenesis, Toml.Value.text?,
    Toml.Value.word?_integer, genesisList?_genesisValue, c.listen.legible_write.ofString_text,
    Net.Endpoint.parse_write, Option.bind_eq_bind, Option.bind_some]

/-! ## Writing -/

/-- a configuration whose numbers fit 64 bits with a sign -/
structure Fits (c : Config) : Prop where
  blockTime : c.blockTime.val < Nat.pow 2 63
  requestTtl : c.requestTtl.val < Nat.pow 2 63
  balances : ∀ g ∈ c.genesis, g.balance.val < Nat.pow 2 63

theorem exists_numberLine? (key : String) (n : Nat) :
    (∃ line, Toml.numberLine? key n = some line) ↔ n < Nat.pow 2 63 := by
  unfold Toml.numberLine?
  split <;> simp [*]

theorem exists_writeGenesis? (gs : List GenesisAccount) :
    (∃ text, writeGenesis? gs = some text) ↔ ∀ g ∈ gs, g.balance.val < Nat.pow 2 63 := by
  induction gs with
  | nil => exact ⟨fun _ => List.forall_mem_nil _, fun _ => ⟨"", rfl⟩⟩
  | cons g gs ih =>
    rw [List.forall_mem_cons, ← ih, ← exists_numberLine? "balance"]
    simp only [writeGenesis?, Option.bind_eq_bind, Option.bind_eq_some_iff]
    constructor
    · rintro ⟨_, balance, hbalance, rest, hrest, -⟩
      exact ⟨⟨balance, hbalance⟩, ⟨rest, hrest⟩⟩
    · rintro ⟨⟨balance, hbalance⟩, ⟨rest, hrest⟩⟩
      exact ⟨_, balance, hbalance, rest, hrest, rfl⟩

def genesisText? (gs : List GenesisAccount) : Option String :=
  if gs = [] then some "genesis = []\n" else writeGenesis? gs

theorem write?_eq_some_iff (c : Config) (text : String) :
    c.write? = some text ↔ ∃ block request genesis,
      Toml.numberLine? "block_time_ms" c.blockTime.val = some block ∧
      Toml.numberLine? "request_ttl_secs" c.requestTtl.val = some request ∧
      genesisText? c.genesis = some genesis ∧
      Toml.textLine "listen" (Ascii.text c.listen.write) ++ block ++ request ++ genesis = text := by
  have hwrite : c.write? = (Toml.numberLine? "block_time_ms" c.blockTime.val).bind fun block =>
      (Toml.numberLine? "request_ttl_secs" c.requestTtl.val).bind fun request =>
        (genesisText? c.genesis).bind fun genesis =>
          some (Toml.textLine "listen" (Ascii.text c.listen.write) ++ block ++ request
            ++ genesis) := by
    unfold write? genesisText?
    split <;> rfl
  simp only [hwrite, Option.bind_eq_some_iff, Option.some.injEq]
  constructor
  · rintro ⟨block, hblock, request, hrequest, genesis, hgenesis, he⟩
    exact ⟨block, request, genesis, hblock, hrequest, hgenesis, he⟩
  · rintro ⟨block, request, genesis, hblock, hrequest, hgenesis, he⟩
    exact ⟨block, hblock, request, hrequest, genesis, hgenesis, he⟩

/-- exactly the configurations whose numbers fit have a document -/
theorem exists_write?_iff (c : Config) : (∃ text, c.write? = some text) ↔ c.Fits := by
  have hgenesis : (∃ text, genesisText? c.genesis = some text)
      ↔ ∀ g ∈ c.genesis, g.balance.val < Nat.pow 2 63 := by
    unfold genesisText?
    split
    · rename_i hnil
      rw [hnil]
      exact ⟨fun _ => List.forall_mem_nil _, fun _ => ⟨_, rfl⟩⟩
    · exact exists_writeGenesis? c.genesis
  simp only [write?_eq_some_iff]
  constructor
  · rintro ⟨_, block, request, genesis, hblock, hrequest, hlist, -⟩
    exact ⟨(exists_numberLine? _ _).mp ⟨block, hblock⟩,
      (exists_numberLine? _ _).mp ⟨request, hrequest⟩, hgenesis.mp ⟨genesis, hlist⟩⟩
  · intro h
    obtain ⟨block, hblock⟩ := (exists_numberLine? "block_time_ms" _).mpr h.blockTime
    obtain ⟨request, hrequest⟩ := (exists_numberLine? "request_ttl_secs" _).mpr h.requestTtl
    obtain ⟨genesis, hlist⟩ := hgenesis.mpr h.balances
    exact ⟨_, block, request, genesis, hblock, hrequest, hlist, rfl⟩

/-! ## The document that is written -/

theorem tables_writeGenesis? {gs : List GenesisAccount} {text : String}
    (h : writeGenesis? gs = some text) :
    Toml.Tables "genesis" text.toList (gs.map (·.entries)) := by
  induction gs generalizing text with
  | nil =>
    cases h
    exact .nil
  | cons g gs ih =>
    simp only [writeGenesis?, Option.bind_eq_bind, Option.bind_eq_some_iff] at h
    obtain ⟨balance, hbalance, rest, hrest, he⟩ := h
    have haccount : Toml.Line (Toml.textLine "account" g.account.toHex).toList
        ("account", .text g.account.toHex) :=
      Toml.line_text (by decide) (Toml.Legible.hexEncode g.account.bytes).unquoted
    have hlines : Toml.Lines ((Toml.textLine "account" g.account.toHex).toList ++ balance.toList)
        g.entries :=
      haccount.lines.append (Toml.line_number (by decide) hbalance).lines
    have hdistinct : (g.entries.map Prod.fst).Nodup := by
      show ["account", "balance"].Nodup
      decide
    have hheader : ("\n[[genesis]]\n").toList = Toml.headerChars "genesis" := by decide
    have htext : text.toList = Toml.headerChars "genesis" ++
        ((Toml.textLine "account" g.account.toHex).toList ++ balance.toList ++ rest.toList) := by
      cases he
      simp only [String.toList_append, hheader, List.append_assoc]
    rw [htext]
    exact .cons hlines hdistinct (ih hrest)

theorem lines_scalars (c : Config) {block request : String}
    (hblock : Toml.numberLine? "block_time_ms" c.blockTime.val = some block)
    (hrequest : Toml.numberLine? "request_ttl_secs" c.requestTtl.val = some request) :
    Toml.Lines ((Toml.textLine "listen" (Ascii.text c.listen.write) ++ block ++ request).toList)
      c.scalars := by
  have hlisten : Toml.Line (Toml.textLine "listen" (Ascii.text c.listen.write)).toList
      ("listen", .text (Ascii.text c.listen.write)) :=
    Toml.line_text (by decide) c.listen.legible_write.unquoted
  rw [String.toList_append, String.toList_append]
  exact (hlisten.lines.append (Toml.line_number (by decide) hblock).lines).append
    (Toml.line_number (by decide) hrequest).lines

theorem parse_write? {c : Config} {text : String} (h : c.write? = some text) :
    Toml.parse text = some c.entries := by
  obtain ⟨block, request, genesis, hblock, hrequest, hgenesis, he⟩ :=
    (c.write?_eq_some_iff text).mp h
  have hscalars := c.lines_scalars hblock hrequest
  have htext : text.toList = (Toml.textLine "listen" (Ascii.text c.listen.write) ++ block
      ++ request).toList ++ genesis.toList := by
    rw [← he, String.toList_append]
  cases hlist : c.genesis with
  | nil =>
    rw [hlist] at hgenesis
    cases hgenesis
    have hentries : c.entries = c.scalars ++ [("genesis", .list [])] := by
      rw [entries, hlist]
      rfl
    have hdistinct : (c.entries.map Prod.fst).Nodup := by
      show ["listen", "block_time_ms", "request_ttl_secs", "genesis"].Nodup
      decide
    have hempty : Toml.Line ("genesis" ++ " = []\n").toList ("genesis", .list []) :=
      Toml.line_emptyList (by decide)
    have hjoin : "genesis" ++ " = []\n" = "genesis = []\n" := by decide
    refine Toml.parse_lines ?_ (List.cons_ne_nil _ _) hdistinct
    rw [htext, hentries, ← hjoin]
    exact hscalars.append hempty.lines
  | cons g gs =>
    have hentries : c.entries
        = c.scalars ++ [("genesis", .tables (g.entries :: gs.map (·.entries)))] := by
      rw [entries, hlist]
      rfl
    have hdistinct : (c.scalars.map Prod.fst).Nodup := by
      show ["listen", "block_time_ms", "request_ttl_secs"].Nodup
      decide
    have hother : "genesis" ∉ c.scalars.map Prod.fst := by
      show "genesis" ∉ ["listen", "block_time_ms", "request_ttl_secs"]
      decide
    rw [hlist] at hgenesis
    rw [hentries]
    exact Toml.parse_tables (by decide) hscalars (List.cons_ne_nil _ _) hdistinct hother
      (tables_writeGenesis? hgenesis) htext

theorem parse_of_write? {c : Config} {text : String} (hcheck : c.check = .ok ())
    (h : c.write? = some text) : parse text = .ok c := by
  rw [parse, parse_write? h, Option.bind_some, ofEntries?_entries]
  dsimp only
  rw [hcheck]

/-! ## Saving and loading -/

theorem run_load (t : FileTree) (path : String) :
    (load path : StateM FileTree (Except Fault Config)).run t
      = ((t.text? path).elim (.error .storage) parse, t) := by
  rw [load, StateT.run_bind, run_readText]
  cases t.text? path <;> rfl

theorem run_save_refused {c : Config} {t made : FileTree} {path : String}
    (hmade : t.makeParents path = some made) (h : c.write? = none) :
    (c.save path : StateM FileTree (Except Fault Unit)).run t = (.error .configNumber, made) := by
  rw [save, h, StateT.run_bind, run_makeParents hmade]
  rfl

theorem run_save_written {c : Config} {t made saved : FileTree} {path text : String}
    (hmade : t.makeParents path = some made) (h : c.write? = some text)
    (hsaved : made.write path (Bytes.ofString text) = some saved) :
    (c.save path : StateM FileTree (Except Fault Unit)).run t = (.ok (), saved) := by
  rw [save, h, StateT.run_bind, run_makeParents hmade]
  exact run_writeText hsaved

end Config

/-- saving a valid configuration under a writable path succeeds if its numbers fit 64 bits with a
sign, and then loading the file gives the configuration back; with a larger number the
configuration is refused, and all that is left are the directories that lead to the file -/
theorem config_kept {c : Config} {t : FileTree} {path : String} (hcheck : c.check = .ok ())
    (hpath : t.Writable path) :
    (c.Fits → ∃ saved,
      (c.save path : StateM FileTree (Except Fault Unit)).run t = (.ok (), saved) ∧
      (Config.load path : StateM FileTree (Except Fault Config)).run saved = (.ok c, saved)) ∧
    (¬ c.Fits → ∃ made, t.makeParents path = some made ∧
      (c.save path : StateM FileTree (Except Fault Unit)).run t = (.error .configNumber, made)) := by
  obtain ⟨made, hmade, hwrite⟩ := hpath.exists_write
  constructor
  · intro hfits
    obtain ⟨text, htext⟩ := c.exists_write?_iff.mpr hfits
    obtain ⟨saved, hsaved⟩ := hwrite (Bytes.ofString text)
    refine ⟨saved, Config.run_save_written hmade htext hsaved, ?_⟩
    rw [Config.run_load, FileTree.text?_of_write hsaved]
    exact congrArg (·, saved) (Config.parse_of_write? hcheck htext)
  · intro hfits
    have hnone : c.write? = none :=
      Option.eq_none_iff_forall_ne_some.mpr fun text htext =>
        hfits (c.exists_write?_iff.mp ⟨text, htext⟩)
    exact ⟨made, hmade, Config.run_save_refused hmade hnone⟩

/-- a configuration with an endpoint of version 6, the largest time that fits, and an account that
has funds twice -/
theorem config_kept_twofold :
    let account : Account := ⟨List.replicate 32 1, by decide⟩
    let other : Account := ⟨List.replicate 32 171, by decide⟩
    let link : Net.Address6 :=
      ⟨[⟨65152, by decide⟩, .zero, .zero, .zero, .zero, .zero, .zero, .one], by decide⟩
    let c : Config :=
      { listen := .v6 link ⟨2, by decide⟩ ⟨9944, by decide⟩
        blockTime := .one
        requestTtl := ⟨Nat.pow 2 63 - 1, by decide⟩
        genesis := [⟨account, ⟨5, by decide⟩⟩, ⟨other, .zero⟩, ⟨account, ⟨7, by decide⟩⟩] }
    let path := "node/file.toml"
    c.check = .ok () ∧ FileTree.empty.Writable path ∧ c.Fits ∧ ∃ saved,
      (c.save path : StateM FileTree (Except Fault Unit)).run FileTree.empty = (.ok (), saved) ∧
      (Config.load path : StateM FileTree (Except Fault Config)).run saved = (.ok c, saved) := by
  intro account other link c path
  have hcheck : c.check = .ok () := by decide
  have hfits : c.Fits := ⟨by decide, by decide, by decide⟩
  exact ⟨hcheck, FileTree.writable_nested, hfits,
    (config_kept hcheck FileTree.writable_nested).1 hfits⟩

/-- a valid configuration that is not saved, although a file could be written: its blocks take a
millisecond too long for a number with a sign -/
theorem long_blocks_refused :
    let c : Config := { Config.standard with blockTime := ⟨Nat.pow 2 63, by decide⟩ }
    let path := "node/file.toml"
    c.check = .ok () ∧ FileTree.empty.Writable path ∧
      ((c.save path : StateM FileTree (Except Fault Unit)).run FileTree.empty).1
        = .error .configNumber := by
  intro c path
  obtain ⟨made, hmade, -⟩ := FileTree.writable_nested.exists_write
  have hwrite : c.write? = none := by decide
  refine ⟨by decide, FileTree.writable_nested, ?_⟩
  rw [Config.run_save_refused hmade hwrite]

end PayChannel
