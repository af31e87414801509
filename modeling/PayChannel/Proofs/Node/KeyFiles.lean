import Mathlib
import PayChannel.Proofs.Node.Storage
import PayChannel.Proofs.Spelling
import PayChannel.Proofs.Toml.Documents

/-!
# Key files

A key file gives its secret if its public key is a spelling of the account of the secret, marks or
not, and has no capital letter.  Everywhere else an account is read from capital letters too, and so
is the secret of the same file; a key file whose public key has one is refused as if its public key
were another one's.  What a node writes has no capital letter, so it is read back.

* `encode_eq_dropMarks_iff`    two readers of an account, and where they differ;
* `secret_eq_ok_iff`    which key pairs are accepted;
* `key_files_read`    loading and saving, on every tree;
* `capital_key_refused`    a file with an account that is read everywhere else.
-/

set_option linter.unusedSectionVars false

namespace PayChannel

def NoCapitals (text : String) : Prop :=
  ∀ b ∈ Bytes.ofString text, Ascii.toLower b = b

/-- a text of the 64 digits of a secret, in letters of either case -/
def Secret.SpelledBy (secret : Secret) (text : String) : Prop :=
  (Bytes.ofString text).map Ascii.toLower = Hex.encode secret.bytes

/-! ## Two readers of an account -/

namespace Hex

theorem map_toLower_encode (bytes : Bytes) : (encode bytes).map Ascii.toLower = encode bytes :=
  (decodePairs_eq_ok_iff 0 _ bytes).mp (decodePairs_encode 0 bytes)

theorem map_toLower_eq_self {x : Bytes} :
    x.map Ascii.toLower = x ↔ ∀ b ∈ x, Ascii.toLower b = b := by
  have hmap := List.map_inj_left (l := x) (f := Ascii.toLower) (g := id)
  rwa [List.map_id] at hmap

theorem toLower_marked (count : Nat) : ∀ b ∈ (marked count).map byteOf, Ascii.toLower b = b := by
  induction count with
  | zero => exact List.forall_mem_nil _
  | succ count ih =>
    rw [marked, List.map_cons, List.map_cons]
    exact List.forall_mem_cons.mpr ⟨by decide, List.forall_mem_cons.mpr ⟨by decide, ih⟩⟩

/-- a text is an account's digits after marks if it names the account without capital letters -/
theorem encode_eq_dropMarks_iff (a : Account) (text : String) :
    encode a.bytes = dropMarks (Bytes.ofString text)
      ↔ Account.parse text = .ok a ∧ NoCapitals text := by
  obtain ⟨count, hcount⟩ := exists_marks (Bytes.ofString text)
  have hsmall : NoCapitals text
      ↔ (dropMarks (Bytes.ofString text)).map Ascii.toLower = dropMarks (Bytes.ofString text) := by
    rw [NoCapitals, map_toLower_eq_self]
    constructor
    · intro h b hb
      apply h
      rw [hcount]
      exact List.mem_append_right _ hb
    · intro h
      rw [hcount]
      exact List.forall_mem_append.mpr ⟨toLower_marked count, h⟩
  rw [Account.parse_eq_ok_iff_lower, hsmall]
  constructor
  · intro h
    rw [← h, map_toLower_encode]
    exact ⟨rfl, rfl⟩
  · rintro ⟨hread, hfixed⟩
    rw [← hread, hfixed]

end Hex

theorem Secret.ofText_eq_ok_iff (secret : Secret) (text : String) :
    Secret.ofText (Bytes.ofString text) = .ok secret ↔ secret.SpelledBy text := by
  have hsized := Hex.decodeSized_eq_ok_iff 32 (Bytes.ofString text) secret.bytes
  rw [Hex.decodePairs_eq_ok_iff] at hsized
  constructor
  · intro h
    unfold Secret.ofText at h
    split at h
    · rename_i bytes hread
      cases h
      exact (hsized.mp hread).1
    · cases h
  · intro h
    have hread := hsized.mpr ⟨h, secret.length_eq⟩
    unfold Secret.ofText
    split
    · rename_i bytes hbytes
      obtain ⟨expected, hlength⟩ := secret
      rw [hread] at hbytes
      cases hbytes
      rfl
    · rename_i e he
      rw [hread] at he
      cases he

theorem Secret.spelledBy_text (secret : Secret) : secret.SpelledBy (Hex.text secret.bytes) := by
  rw [SpelledBy, Bytes.ofString_hexText, Hex.map_toLower_encode]

theorem Account.unquoted_display (a : Account) : ∀ c ∈ a.display.toList, Toml.Unquoted c := by
  have hmark : ("0x").toList = ['0', 'x'] := by decide
  rw [display, String.toList_append, hmark]
  exact List.forall_mem_cons.mpr ⟨by decide, List.forall_mem_cons.mpr
    ⟨by decide, (Toml.Legible.hexEncode a.bytes).unquoted⟩⟩

/-! ## Key pairs -/

namespace KeyPair

/-- a key pair gives the secret that its secret text spells if its public text names the secret's
account without capital letters -/
theorem secret_eq_ok_iff (S : SignatureScheme) (k : KeyPair) (secret : Secret) :
    k.secret S = .ok secret ↔ secret.SpelledBy k.secretKey ∧
      Account.parse k.publicKey = .ok (S.account secret) ∧ NoCapitals k.publicKey := by
  rw [← Secret.ofText_eq_ok_iff, ← Hex.encode_eq_dropMarks_iff, KeyPair.secret]
  split
  · rename_i reason hreason
    constructor
    · intro h
      cases h
    · rintro ⟨htext, -⟩
      rw [hreason] at htext
      cases htext
  · rename_i found hfound
    split
    · rename_i hkey
      constructor
      · intro h
        cases h
        exact ⟨hfound, hkey⟩
      · rintro ⟨htext, -⟩
        rw [hfound] at htext
        cases htext
        rfl
    · rename_i hkey
      constructor
      · intro h
        cases h
      · rintro ⟨htext, hown⟩
        rw [hfound] at htext
        cases htext
        exact absurd hown hkey

/-- with capital letters, even the own account's text is that of another key -/
theorem secret_eq_keyMismatch (S : SignatureScheme) {k : KeyPair} {secret : Secret}
    (hspelled : secret.SpelledBy k.secretKey)
    (hother : ¬ (Account.parse k.publicKey = .ok (S.account secret) ∧ NoCapitals k.publicKey)) :
    k.secret S = .error .keyMismatch := by
  rw [← Hex.encode_eq_dropMarks_iff] at hother
  rw [KeyPair.secret, (Secret.ofText_eq_ok_iff secret k.secretKey).mpr hspelled]
  exact if_neg hother

def entries (k : KeyPair) : Toml.Entries :=
  [("public_key", .text k.publicKey), ("secret_key", .text k.secretKey)]

theorem parse_write {k : KeyPair} (hpublic : ∀ c ∈ k.publicKey.toList, Toml.Unquoted c)
    (hsecret : ∀ c ∈ k.secretKey.toList, Toml.Unquoted c) :
    Toml.parse k.write = some k.entries := by
  have hfirst : Toml.Line (Toml.textLine "public_key" k.publicKey).toList
      ("public_key", .text k.publicKey) := Toml.line_text (by decide) hpublic
  have hsecond : Toml.Line (Toml.textLine "secret_key" k.secretKey).toList
      ("secret_key", .text k.secretKey) := Toml.line_text (by decide) hsecret
  have hdistinct : (k.entries.map Prod.fst).Nodup := by
    show ["public_key", "secret_key"].Nodup
    decide
  refine Toml.parse_lines ?_ (List.cons_ne_nil _ _) hdistinct
  rw [write, String.toList_append]
  exact hfirst.lines.append hsecond.lines

theorem ofEntries?_entries (k : KeyPair) : ofEntries? k.entries = some k := rfl

theorem secret_ofSecret (S : SignatureScheme) (secret : Secret) :
    (ofSecret S secret).secret S = .ok secret := by
  have hown : Hex.encode (S.account secret).bytes
      = Hex.dropMarks (Bytes.ofString (S.account secret).toHex) := by
    rw [Account.toHex, Bytes.ofString_hexText, Hex.dropMarks_encode]
  exact (secret_eq_ok_iff S _ secret).mpr
    ⟨secret.spelledBy_text, (Hex.encode_eq_dropMarks_iff _ _).mp hown⟩

theorem load_write (S : SignatureScheme) (secret : Secret) :
    load S (ofSecret S secret).write = .ok secret := by
  have hparse : Toml.parse (ofSecret S secret).write = some (ofSecret S secret).entries :=
    parse_write (k := ofSecret S secret) (Toml.Legible.hexEncode (S.account secret).bytes).unquoted
      (Toml.Legible.hexEncode secret.bytes).unquoted
  rw [load, hparse, Option.bind_some, ofEntries?_entries]
  exact secret_ofSecret S secret

/-! ## Saving and loading -/

def inFile? (t : FileTree) (path : String) : Option KeyPair :=
  ((t.text? path).bind Toml.parse).bind ofEntries?

theorem run_loadFile (S : SignatureScheme) (t : FileTree) (path : String) :
    (loadFile S path : StateM FileTree (Except Fault Secret)).run t
      = ((t.text? path).elim (.error .storage) (load S), t) := by
  rw [loadFile, StateT.run_bind, run_readText]
  cases t.text? path <;> rfl

theorem inFile?_add {t : FileTree} {path : String} (h : t.Writable path) {k : KeyPair}
    (hpublic : ∀ c ∈ k.publicKey.toList, Toml.Unquoted c)
    (hsecret : ∀ c ∈ k.secretKey.toList, Toml.Unquoted c) :
    inFile? (t.add path (Bytes.ofString k.write)) path = some k := by
  rw [inFile?, FileTree.text?_add h, Option.bind_some, parse_write hpublic hsecret,
    Option.bind_some, ofEntries?_entries]

theorem run_loadFile_of_inFile? {t : FileTree} {path : String} {k : KeyPair}
    (h : inFile? t path = some k) (S : SignatureScheme) :
    (loadFile S path : StateM FileTree (Except Fault Secret)).run t = (k.secret S, t) := by
  rw [run_loadFile]
  unfold inFile? at h
  cases htext : t.text? path with
  | none =>
    rw [htext] at h
    cases h
  | some text =>
    rw [htext, Option.bind_some] at h
    show (load S text, t) = _
    rw [load, h]

theorem run_saveFile {k : KeyPair} {t made saved : FileTree} {path : String}
    (hmade : t.makeParents path = some made)
    (hsaved : made.write path (Bytes.ofString k.write) = some saved) :
    (k.saveFile path : StateM FileTree (Except Fault Unit)).run t = (.ok (), saved) := by
  rw [saveFile, StateT.run_bind, run_makeParents hmade]
  exact run_writeText hsaved

end KeyPair

/-- a key file gives a secret exactly if its secret text spells the secret and its public text is
read as the secret's account and has no capital letter; so a public text that is read as another
account, or not at all, is refused.  What has been saved for a secret is read as that secret. -/
theorem key_files_read (S : SignatureScheme) :
    (∀ (t : FileTree) (path : String) (k : KeyPair), KeyPair.inFile? t path = some k →
      (∀ secret, (KeyPair.loadFile S path : StateM FileTree (Except Fault Secret)).run t
          = (.ok secret, t) ↔
        secret.SpelledBy k.secretKey ∧ Account.parse k.publicKey = .ok (S.account secret) ∧
          NoCapitals k.publicKey) ∧
      ((∀ secret, secret.SpelledBy k.secretKey →
          Account.parse k.publicKey ≠ .ok (S.account secret)) →
        ∃ fault, (KeyPair.loadFile S path : StateM FileTree (Except Fault Secret)).run t
          = (.error fault, t))) ∧
    (∀ (t : FileTree) (path : String) (secret : Secret), t.Writable path → ∃ saved,
      ((KeyPair.ofSecret S secret).saveFile path : StateM FileTree (Except Fault Unit)).run t
        = (.ok (), saved) ∧
      (KeyPair.loadFile S path : StateM FileTree (Except Fault Secret)).run saved
        = (.ok secret, saved)) := by
  constructor
  · intro t path k hfile
    have hrun := KeyPair.run_loadFile_of_inFile? hfile S
    refine ⟨fun secret => ?_, fun hother => ?_⟩
    · rw [hrun, ← k.secret_eq_ok_iff S secret]
      exact ⟨fun h => (Prod.mk.inj h).1, fun h => congrArg (·, t) h⟩
    · rw [hrun]
      cases hresult : k.secret S with
      | error fault => exact ⟨fault, rfl⟩
      | ok secret =>
        obtain ⟨hspelled, hread, -⟩ := (k.secret_eq_ok_iff S secret).mp hresult
        exact absurd hread (hother secret hspelled)
  · intro t path secret hpath
    obtain ⟨made, hmade, hwrite⟩ := hpath.exists_write
    obtain ⟨saved, hsaved⟩ := hwrite (Bytes.ofString (KeyPair.ofSecret S secret).write)
    refine ⟨saved, KeyPair.run_saveFile hmade hsaved, ?_⟩
    rw [KeyPair.run_loadFile, FileTree.text?_of_write hsaved]
    exact congrArg (·, saved) (KeyPair.load_write S secret)

/-- the account of the secret with a mark before it is accepted, a text that is too short is not,
and what is saved is loaded -/
theorem key_files_read_marked :
    let path := "node/file.toml"
    let secret : Secret := ⟨List.replicate 32 1, rfl⟩
    let marked : KeyPair := ⟨(ed25519.account secret).display, Hex.text secret.bytes⟩
    let short : KeyPair := ⟨"8a88", Hex.text secret.bytes⟩
    let t (k : KeyPair) := FileTree.empty.add path (Bytes.ofString k.write)
    (KeyPair.inFile? (t marked) path = some marked ∧
      (KeyPair.loadFile ed25519 path : StateM FileTree (Except Fault Secret)).run (t marked)
        = (.ok secret, t marked)) ∧
    (KeyPair.inFile? (t short) path = some short ∧ ∃ fault,
      (KeyPair.loadFile ed25519 path : StateM FileTree (Except Fault Secret)).run (t short)
        = (.error fault, t short)) ∧
    (FileTree.empty.Writable path ∧ ∃ saved,
      ((KeyPair.ofSecret ed25519 secret).saveFile path
        : StateM FileTree (Except Fault Unit)).run FileTree.empty = (.ok (), saved) ∧
      (KeyPair.loadFile ed25519 path : StateM FileTree (Except Fault Secret)).run saved
        = (.ok secret, saved)) := by
  intro path secret marked short t
  have hpath : FileTree.empty.Writable path := FileTree.writable_nested
  have hspelled : secret.SpelledBy (Hex.text secret.bytes) := secret.spelledBy_text
  have hsecret := (Toml.Legible.hexEncode secret.bytes).unquoted
  refine ⟨?_, ?_, hpath, (key_files_read ed25519).2 _ path secret hpath⟩
  · have hfile : KeyPair.inFile? (t marked) path = some marked :=
      KeyPair.inFile?_add hpath (ed25519.account secret).unquoted_display hsecret
    have hown := (Hex.encode_eq_dropMarks_iff (ed25519.account secret) marked.publicKey).mp
      (Account.dropMarks_display _).symm
    exact ⟨hfile, (((key_files_read ed25519).1 _ path marked hfile).1 secret).mpr ⟨hspelled, hown⟩⟩
  · have hshort : short.publicKey.toList.all (fun c => decide (Toml.Unquoted c)) = true := by
      decide_cbv
    have hfile : KeyPair.inFile? (t short) path = some short :=
      KeyPair.inFile?_add hpath (Toml.unquoted_of_all hshort) hsecret
    have hunread : Account.parse short.publicKey = .error .wrongLength := by decide_cbv
    refine ⟨hfile, ((key_files_read ed25519).1 _ path short hfile).2 fun other _ hother => ?_⟩
    rw [hunread] at hother
    cases hother

/-- a key file whose secret text spells a secret, and whose public text is read as the secret's
account everywhere else, is refused for the capital letters -/
theorem capital_key_refused :
    let path := "node/file.toml"
    let secret : Secret := ⟨List.replicate 32 1, rfl⟩
    let k : KeyPair :=
      ⟨"8A88E3DD7409F195FD52DB2D3CBA5D72CA6709BF1D94121BF3748801B40F6F5C",
        "0101010101010101010101010101010101010101010101010101010101010101"⟩
    let t := FileTree.empty.add path (Bytes.ofString k.write)
    KeyPair.inFile? t path = some k ∧ secret.SpelledBy k.secretKey ∧
      Account.parse k.publicKey = .ok (ed25519.account secret) ∧
      (KeyPair.loadFile ed25519 path : StateM FileTree (Except Fault Secret)).run t
        = (.error .keyMismatch, t) := by
  intro path secret k t
  have hpublic : k.publicKey.toList.all (fun c => decide (Toml.Unquoted c)) = true := by
    decide_cbv
  have hsecret : k.secretKey.toList.all (fun c => decide (Toml.Unquoted c)) = true := by
    decide_cbv
  have hfile : KeyPair.inFile? t path = some k :=
    KeyPair.inFile?_add FileTree.writable_nested (Toml.unquoted_of_all hpublic)
      (Toml.unquoted_of_all hsecret)
  have hspelled : secret.SpelledBy k.secretKey := by
    unfold Secret.SpelledBy
    decide_cbv
  have hcapital : ¬ NoCapitals k.publicKey := by
    have hletter : (65 : UInt8) ∈ Bytes.ofString k.publicKey := by decide_cbv
    intro h
    cases h 65 hletter
  refine ⟨hfile, hspelled, by decide +kernel, ?_⟩
  rw [KeyPair.run_loadFile_of_inFile? hfile,
    KeyPair.secret_eq_keyMismatch ed25519 hspelled fun h => hcapital h.2]

end PayChannel
