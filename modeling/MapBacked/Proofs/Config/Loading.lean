import MapBacked.Config
import MapBacked.Proofs.Path
import MapBacked.Toml.Reader

/-!
# Where a configuration comes from

Loading a configuration is reading its file, reading the text in it, and anchoring the template path
at the directory of the file; no step adds anything else (`Config.load_of_parsed`,
`Config.load_eq_error_iff`). Whatever decoder reads the text, that is all that depends on it.

A discovered file was found by joining its name to a directory, and the template path is joined to
the parent of that. The parent need not be spelled as the directory was, since it drops slashes and
dots at the end. But it has the same parts (`Config.exists_parent_of_file`), and so has whatever is
joined to it. The template is the one that the directory would lead to.
-/

namespace MapBacked.Config

variable {toml : Toml.Decoder} {fs : FileSystem} {file dir : Path} {source : String}
  {c c' : Config}

/-! ## Loading -/

/-- A text has a fault if there is no document in it, or one that is not of a configuration. -/
theorem parse_eq_error_iff {e : ConfigError} : parse toml source = .error e ↔
    (∃ cause, toml.decode source = .error cause ∧ e = .malformed cause) ∨
    ∃ fields, toml.decode source = .ok fields ∧ ofDocument? fields = none ∧
      e = .malformed (toml.mismatch source) := by
  unfold parse
  cases toml.decode source with
  | error cause => simp [eq_comm]
  | ok fields => cases h : ofDocument? fields <;> simp [h, eq_comm]

theorem eq_malformed_of_parse {e : ConfigError} (h : parse toml source = .error e) :
    ∃ cause, e = .malformed cause := by
  rcases parse_eq_error_iff.1 h with ⟨cause, -, rfl⟩ | ⟨_, -, -, rfl⟩
  · exact ⟨cause, rfl⟩
  · exact ⟨toml.mismatch source, rfl⟩

theorem load_of_unreadable {cause : ReadError} (h : fs.read file = .error cause) :
    load toml fs file = .error (.unreadable file cause) := by
  rw [load, h]

theorem load_of_read (h : fs.read file = .ok source) :
    load toml fs file = (parse toml source).map fun c => c.anchor file := by
  rw [load, h]
  show (parse toml source >>= fun c => pure (c.anchor file)) = _
  cases parse toml source with
  | ok c => rfl
  | error e => rfl

theorem discover_of_file (h : fs.isFile (dir.join fileName) = true) :
    discover toml fs dir = load toml fs (dir.join fileName) := if_pos h

theorem discover_of_no_file (h : fs.isFile (dir.join fileName) = false) :
    discover toml fs dir = .ok empty := by
  rw [discover, h]
  rfl

/-! ## Anchoring -/

/-- The second configuration is the first one with its template path read from the directory of a
file. -/
structure AnchoredAt (file : Path) (c c' : Config) : Prop where
  markers : c'.markers = c.markers
  absent : c'.templatePath = none ↔ c.templatePath = none
  kept : ∀ t, c.templatePath = some t → t.isAbsolute = true ∨ file.parent? = none →
    c'.templatePath = some t
  joined : ∀ t base, c.templatePath = some t → t.isAbsolute = false → file.parent? = some base →
    c'.templatePath = some (base.join t)

theorem anchor_of_none (h : c.templatePath = none) : c.anchor file = c := by
  rw [anchor, h]

theorem anchor_of_no_parent (h : file.parent? = none) : c.anchor file = c := by
  unfold anchor
  split
  · next hparent =>
    rw [h] at hparent
    cases hparent
  · rfl

theorem anchor_of_parent {t base : Path} (h : c.templatePath = some t)
    (hparent : file.parent? = some base) :
    c.anchor file = { c with templatePath := some (base.join t) } := by
  rw [anchor, h, hparent]

theorem anchoredAt_anchor (file : Path) (c : Config) : AnchoredAt file c (c.anchor file) := by
  cases ht : c.templatePath with
  | none =>
    rw [anchor_of_none ht]
    exact ⟨rfl, .rfl, fun t h _ => h, fun t base h => absurd h (by simp [ht])⟩
  | some t =>
    cases hparent : file.parent? with
    | none =>
      rw [anchor_of_no_parent hparent]
      exact ⟨rfl, .rfl, fun t h _ => h, fun t base _ _ h => absurd h (by simp [hparent])⟩
    | some base =>
      rw [anchor_of_parent ht hparent]
      refine ⟨rfl, by simp [ht], ?kept, ?joined⟩
      case kept =>
        rintro t' h (habs | hnone)
        · rw [ht] at h
          cases h
          rw [Path.join_of_isAbsolute habs]
        · rw [hparent] at hnone
          cases hnone
      case joined =>
        intro t' base' h _ hbase
        rw [ht] at h
        rw [hparent] at hbase
        cases h
        cases hbase
        rfl

/-- Anchoring leaves nothing open. -/
theorem AnchoredAt.unique {c'' : Config} (h : AnchoredAt file c c') (h' : AnchoredAt file c c'') :
    c' = c'' := by
  have hmarkers : c'.markers = c''.markers := h.markers.trans h'.markers.symm
  have hpath : c'.templatePath = c''.templatePath := by
    cases ht : c.templatePath with
    | none => rw [h.absent.2 ht, h'.absent.2 ht]
    | some t =>
      cases hparent : file.parent? with
      | none => rw [h.kept t ht (.inr hparent), h'.kept t ht (.inr hparent)]
      | some base =>
        cases habs : t.isAbsolute with
        | true => rw [h.kept t ht (.inl habs), h'.kept t ht (.inl habs)]
        | false => rw [h.joined t base ht habs hparent, h'.joined t base ht habs hparent]
  obtain ⟨markers, path⟩ := c'
  obtain ⟨markers', path'⟩ := c''
  cases hmarkers
  cases hpath
  rfl

/-! ## The directory of a discovered file -/

theorem parts_file (dir : Path) :
    (dir.join fileName).parts = dir.parts ++ [fileName.text.toList] := by
  have hrelative : fileName.isAbsolute = false := by decide
  have hparts : fileName.parts = [fileName.text.toList] := by decide
  have hpieces : Path.pieces fileName.text.toList = [fileName.text.toList] := by decide
  rw [Path.parts_join hrelative, hparts, hpieces]
  split
  · next hempty =>
    rw [hempty]
    rfl
  · rfl

/-- The parent of a discovered file is another spelling of the directory. -/
theorem exists_parent_of_file (dir : Path) :
    ∃ base, (dir.join fileName).parent? = some base ∧ base.parts = dir.parts := by
  have hfile := parts_file dir
  cases hparent : (dir.join fileName).parent? with
  | none =>
    rcases Path.parts_of_no_parent hparent with hparts | hparts
    · rw [hparts] at hfile
      simp at hfile
    · rw [hparts, ← List.nil_append [['/']]] at hfile
      obtain ⟨-, hname⟩ := List.append_inj' hfile rfl
      exact absurd hname (by decide)
  | some base =>
    obtain ⟨part, hparts⟩ := Path.parts_of_parent? hparent
    rw [hparts] at hfile
    exact ⟨base, rfl, List.append_inj_left' hfile rfl⟩

/-- The template path of a discovered configuration leads to where the directory would lead it. -/
theorem parts_templatePath_anchor {t : Path} (dir : Path) (h : c.templatePath = some t) :
    ∃ t', (c.anchor (dir.join fileName)).templatePath = some t' ∧
      t'.parts = (dir.join t).parts := by
  obtain ⟨base, hparent, hparts⟩ := exists_parent_of_file dir
  rw [anchor_of_parent h hparent]
  exact ⟨_, rfl, Path.parts_join_congr hparts t⟩

/-! ## What loading comes to -/

theorem load_eq_error_iff {e : ConfigError} (h : fs.read file = .ok source) :
    load toml fs file = .error e ↔ parse toml source = .error e := by
  rw [load_of_read h]
  cases parse toml source with
  | ok c =>
    constructor
    · intro h
      cases h
    · intro h
      cases h
  | error e' => exact .rfl

theorem load_of_parsed (h : fs.read file = .ok source) (hc : parse toml source = .ok c) :
    load toml fs file = .ok (c.anchor file) := by
  rw [load_of_read h, hc]
  rfl

/-- **Loading is parsing and anchoring.** A file that cannot be read is a failure of its own, and one
with a text in it fails just if the text does, with the same fault. Otherwise the loaded
configuration is the one in the text, with a relative template path joined to the parent of the file
and everything else as it is. Hence the template path that is discovered in a directory has the
parts of the one that is joined to the directory itself, however the directory is spelled; and
without a file nothing is configured. -/
theorem loading_is_parsing_and_anchoring (toml : Toml.Decoder) (fs : FileSystem) :
    (∀ file cause, fs.read file = .error cause →
      load toml fs file = .error (.unreadable file cause)) ∧
    (∀ file source, fs.read file = .ok source →
      (∀ e, load toml fs file = .error e ↔ parse toml source = .error e) ∧
      (∀ e, parse toml source = .error e → ∃ cause, e = .malformed cause) ∧
      ∀ c, parse toml source = .ok c → ∃ c', load toml fs file = .ok c' ∧ AnchoredAt file c c') ∧
    (∀ dir source c t, fs.isFile (dir.join fileName) = true →
      fs.read (dir.join fileName) = .ok source → parse toml source = .ok c →
      c.templatePath = some t → ∃ c' t', discover toml fs dir = .ok c' ∧ c'.markers = c.markers ∧
        c'.templatePath = some t' ∧ t'.parts = (dir.join t).parts) ∧
    (∀ dir, fs.isFile (dir.join fileName) = false → discover toml fs dir = .ok empty) := by
  refine ⟨?unreadable, ?readable, ?discovered, ?absent⟩
  case unreadable =>
    intro file cause h
    exact load_of_unreadable h
  case readable =>
    intro file source h
    refine ⟨fun e => load_eq_error_iff h, fun e he => eq_malformed_of_parse he, ?_⟩
    intro c hc
    exact ⟨_, load_of_parsed h hc, anchoredAt_anchor file c⟩
  case discovered =>
    intro dir source c t hfile hread hc ht
    obtain ⟨t', ht', hparts⟩ := parts_templatePath_anchor dir ht
    refine ⟨_, t', ?_, (anchoredAt_anchor (dir.join fileName) c).markers, ht', hparts⟩
    rw [discover_of_file hfile, load_of_parsed hread hc]
  case absent =>
    intro dir h
    exact discover_of_no_file h

/-! ## A directory in an unusual spelling -/

/-- With the decoder that goes by `Toml.parse?` all texts have the same fault. -/
theorem parse_ofParse (source : String) : parse .ofParse source =
    match (Toml.parse? source).bind ofDocument? with
    | some c => .ok c
    | none => .error (.malformed "TOML parse error") := by
  rw [parse, Toml.Decoder.decode_ofParse]
  cases Toml.parse? source with
  | none => rfl
  | some fields => rfl

theorem parse_ofParse_of_some (h : (Toml.parse? source).bind ofDocument? = some c) :
    parse .ofParse source = .ok c := by
  rw [parse_ofParse, h]

/-- Files in the directory `conf`, each at the one path by which it is asked for here. -/
def confFiles : FileSystem where
  entry p :=
    if p = ⟨"./conf/.//automap.toml"⟩ then .file "template.path='t.j2'".toByteArray
    else if p = ⟨"conf/open.toml"⟩ then .file "template.path='".toByteArray
    else if p = ⟨"conf/locked.toml"⟩ then .locked
    else .absent

theorem loading_is_parsing_and_anchoring_conf :
    (∃ c t, discover .ofParse confFiles ⟨"./conf/.//"⟩ = .ok c ∧ c.templatePath = some t ∧
      t.parts = [['.'], "conf".toList, "t.j2".toList]) ∧
    load .ofParse confFiles ⟨"conf/open.toml"⟩ = .error (.malformed "TOML parse error") ∧
    load .ofParse confFiles ⟨"conf/locked.toml"⟩
      = .error (.unreadable ⟨"conf/locked.toml"⟩ .denied) ∧
    discover .ofParse confFiles ⟨"conf"⟩ = .ok empty := by
  obtain ⟨hunreadable, hreadable, hdiscovered, habsent⟩ :=
    loading_is_parsing_and_anchoring .ofParse confFiles
  have hfile : (⟨"./conf/.//"⟩ : Path).join fileName = ⟨"./conf/.//automap.toml"⟩ := by decide
  refine ⟨?discovered, ?malformed, hunreadable _ _ rfl, habsent _ (by decide)⟩
  case discovered =>
    have hread : confFiles.read ((⟨"./conf/.//"⟩ : Path).join fileName)
        = .ok "template.path='t.j2'" := by
      rw [hfile]
      exact FileSystem.read_of_file rfl
    have hparsed : parse .ofParse "template.path='t.j2'" = .ok ⟨.empty, some ⟨"t.j2"⟩⟩ :=
      parse_ofParse_of_some (by decide +kernel)
    obtain ⟨c, t, hc, -, ht, hparts⟩ := hdiscovered _ _ _ _ (by rw [hfile]; rfl) hread hparsed rfl
    exact ⟨c, t, hc, ht, hparts.trans (by decide)⟩
  case malformed =>
    have hdocument : (Toml.parse? "template.path='").bind ofDocument? = none := by decide +kernel
    obtain ⟨herror, -, -⟩ := hreadable ⟨"conf/open.toml"⟩ "template.path='"
      (FileSystem.read_of_file rfl)
    refine (herror _).2 ?_
    rw [parse_ofParse, hdocument]

end MapBacked.Config
