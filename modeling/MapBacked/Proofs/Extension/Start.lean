import MapBacked.Proofs.Config.Loading
import MapBacked.Proofs.Generation.Outcome
import MapBacked.Template.Rendering

/-!
# How an extension starts

To start in a directory an extension reads two files at most: its configuration, and the class
template that is named there. Either can be unreadable or have a fault in it, so there are four ways
to fail. `Extension.Startup` says when each of them comes about, what is told then, and what the
extension is that starts otherwise; a directory and what stands in the files leave one of these, and
it is the one that `Extension.discover` takes (`Extension.startup_iff`).

An extension that started has taken from the configuration the rules of its markers and the
compiled template. What it generates later is what these two generate, and the files play no part
in it any more. Nor does it matter which decoder and which engine there are, but for what they
answer.
-/

namespace MapBacked

variable {E : Template.Engine} {toml : Toml.Decoder} {fs : FileSystem} {dir path : Path}
  {source : String} {c c' : Config} {cause : ReadError}

/-! ## The configuration of a directory -/

namespace Config

/-- The configuration that counts in a directory: the one in its file, its template path read from
there, or the one that adds nothing if there is no file. -/
inductive InEffect (toml : Toml.Decoder) (fs : FileSystem) (dir : Path) : Config → Prop where
  | absent (hfile : fs.isFile (dir.join fileName) = false) : InEffect toml fs dir empty
  | loaded {source : String} {c c' : Config} (hfile : fs.isFile (dir.join fileName) = true)
      (hread : fs.read (dir.join fileName) = .ok source) (hparse : parse toml source = .ok c)
      (hanchored : AnchoredAt (dir.join fileName) c c') : InEffect toml fs dir c'

theorem InEffect.discover_eq (h : InEffect toml fs dir c) : discover toml fs dir = .ok c := by
  cases h with
  | absent hfile => exact discover_of_no_file hfile
  | loaded hfile hread hparse hanchored =>
    rw [discover_of_file hfile, load_of_parsed hread hparse,
      hanchored.unique (anchoredAt_anchor _ _)]

theorem InEffect.unique (h : InEffect toml fs dir c) (h' : InEffect toml fs dir c') : c = c' :=
  Except.ok.inj (h.discover_eq.symm.trans h'.discover_eq)

/-- A file that holds the text of a configuration brings that one into effect, anchored there. -/
theorem InEffect.of_file (file : Path) (hjoin : dir.join fileName = file)
    (hentry : fs.entry file = .file source.toByteArray) (hparse : parse toml source = .ok c)
    (hanchor : c.anchor file = c') : InEffect toml fs dir c' := by
  subst hjoin hanchor
  refine .loaded ?_ (FileSystem.read_of_file hentry) hparse (anchoredAt_anchor _ c)
  rw [FileSystem.isFile, hentry]

end Config

/-! ## The renderer of a configuration

A template is told of when it has been read, and compiled after that.
-/

namespace Renderer

theorem load_of_unreadable (hread : fs.read path = .error cause) :
    load E fs path = throw (.templateUnreadable path cause) := by
  rw [load, hread]
  rfl

theorem load_of_read (hread : fs.read path = .ok source) :
    load E fs path = (do
      Attempt.tell (.templateRead path)
      Attempt.ofExcept .template (ofSource E source)) := by
  rw [load, hread]
  rfl

theorem run_ofConfig_of_none (hpath : c.templatePath = none) :
    (ofConfig E fs c).run = ⟨.ok none, []⟩ := by
  rw [ofConfig, hpath]
  rfl

theorem ofConfig_of_some (hpath : c.templatePath = some path) :
    ofConfig E fs c = (do return some (← load E fs path)) := by
  rw [ofConfig, hpath]

theorem run_ofConfig_of_unreadable (hpath : c.templatePath = some path)
    (hread : fs.read path = .error cause) :
    (ofConfig E fs c).run = ⟨.error (.templateUnreadable path cause), []⟩ := by
  rw [ofConfig_of_some hpath, load_of_unreadable hread]
  rfl

theorem run_ofConfig_of_fault {fault : String} (hpath : c.templatePath = some path)
    (hread : fs.read path = .ok source) (hfault : ofSource E source = .error fault) :
    (ofConfig E fs c).run = ⟨.error (.template fault), [.templateRead path]⟩ := by
  rw [ofConfig_of_some hpath, load_of_read hread, hfault]
  rfl

theorem run_ofConfig_of_compiled {renderer : Renderer E} (hpath : c.templatePath = some path)
    (hread : fs.read path = .ok source) (hcompiled : ofSource E source = .ok renderer) :
    (ofConfig E fs c).run = ⟨.ok (some renderer), [.templateRead path]⟩ := by
  rw [ofConfig_of_some hpath, load_of_read hread, hcompiled]
  rfl

end Renderer

namespace Extension

theorem run_ofConfig_of_error {f : Failure} {events : List Event}
    (h : (Renderer.ofConfig E fs c).run = ⟨.error f, events⟩) :
    (ofConfig E fs c).run = ⟨.error f, events⟩ := by
  have hrenderer : Renderer.ofConfig E fs c = ExceptT.mk ⟨.error f, events⟩ := h
  rw [ofConfig, hrenderer]
  show (⟨.error f, events ++ []⟩ : Logged (Except Failure (Extension E))) = _
  rw [List.append_nil]

theorem run_ofConfig_of_ok {renderer : Option (Renderer E)} {events : List Event}
    (h : (Renderer.ofConfig E fs c).run = ⟨.ok renderer, events⟩) :
    (ofConfig E fs c).run = ⟨.ok ⟨.mapFamily, .ofConfig c.markers, renderer⟩,
      events ++ [.extensionConfigured (MarkerTable.ofConfig c.markers).size renderer.isSome]⟩ := by
  have hrenderer : Renderer.ofConfig E fs c = ExceptT.mk ⟨.ok renderer, events⟩ := h
  rw [ofConfig, hrenderer]
  rfl

theorem discover_of_inEffect (h : Config.InEffect toml fs dir c) :
    discover E toml fs dir = ofConfig E fs c := by
  rw [discover, h.discover_eq]
  rfl

theorem run_discover_of_fault {e : ConfigError} (h : Config.discover toml fs dir = .error e) :
    (discover E toml fs dir).run = ⟨.error (.config e), []⟩ := by
  rw [discover, h]
  rfl

/-! ## How a start comes out -/

/-- What starting in a directory comes to, and what is told of it. Of two faults the one that stands
further up here is reported. -/
inductive Startup (E : Template.Engine) (toml : Toml.Decoder) (fs : FileSystem) (dir : Path) :
    Except Failure (Extension E) → List Event → Prop where
  | configUnreadable {cause : ReadError} (hfile : fs.isFile (dir.join Config.fileName) = true)
      (hread : fs.read (dir.join Config.fileName) = .error cause) :
      Startup E toml fs dir (.error (.config (.unreadable (dir.join Config.fileName) cause))) []
  | configMalformed {source cause : String} (hfile : fs.isFile (dir.join Config.fileName) = true)
      (hread : fs.read (dir.join Config.fileName) = .ok source)
      (hparse : Config.parse toml source = .error (.malformed cause)) :
      Startup E toml fs dir (.error (.config (.malformed cause))) []
  | templateUnreadable {c : Config} {path : Path} {cause : ReadError}
      (hc : Config.InEffect toml fs dir c) (hpath : c.templatePath = some path)
      (hread : fs.read path = .error cause) :
      Startup E toml fs dir (.error (.templateUnreadable path cause)) []
  | templateFaulty {c : Config} {path : Path} {source fault : String}
      (hc : Config.InEffect toml fs dir c) (hpath : c.templatePath = some path)
      (hread : fs.read path = .ok source) (hfault : Renderer.ofSource E source = .error fault) :
      Startup E toml fs dir (.error (.template fault)) [.templateRead path]
  | builtin {c : Config} (hc : Config.InEffect toml fs dir c) (hpath : c.templatePath = none) :
      Startup E toml fs dir (.ok ⟨.mapFamily, .ofConfig c.markers, none⟩)
        [.extensionConfigured (MarkerTable.ofConfig c.markers).size false]
  | custom {c : Config} {path : Path} {source : String} {renderer : Renderer E}
      (hc : Config.InEffect toml fs dir c) (hpath : c.templatePath = some path)
      (hread : fs.read path = .ok source) (hcompiled : Renderer.ofSource E source = .ok renderer) :
      Startup E toml fs dir (.ok ⟨.mapFamily, .ofConfig c.markers, some renderer⟩)
        [.templateRead path, .extensionConfigured (MarkerTable.ofConfig c.markers).size true]

variable {r : Except Failure (Extension E)} {events : List Event}

theorem Startup.run_discover (h : Startup E toml fs dir r events) :
    (discover E toml fs dir).run = ⟨r, events⟩ := by
  cases h with
  | configUnreadable hfile hread =>
    refine run_discover_of_fault ?_
    rw [Config.discover_of_file hfile, Config.load_of_unreadable hread]
  | configMalformed hfile hread hparse =>
    refine run_discover_of_fault ?_
    rw [Config.discover_of_file hfile]
    exact (Config.load_eq_error_iff hread).2 hparse
  | templateUnreadable hc hpath hread =>
    rw [discover_of_inEffect hc]
    exact run_ofConfig_of_error (Renderer.run_ofConfig_of_unreadable hpath hread)
  | templateFaulty hc hpath hread hfault =>
    rw [discover_of_inEffect hc]
    exact run_ofConfig_of_error (Renderer.run_ofConfig_of_fault hpath hread hfault)
  | builtin hc hpath =>
    rw [discover_of_inEffect hc]
    exact run_ofConfig_of_ok (Renderer.run_ofConfig_of_none hpath)
  | custom hc hpath hread hcompiled =>
    rw [discover_of_inEffect hc]
    exact run_ofConfig_of_ok (Renderer.run_ofConfig_of_compiled hpath hread hcompiled)

theorem exists_startup_of_inEffect (hc : Config.InEffect toml fs dir c) :
    ∃ r events, Startup E toml fs dir r events := by
  cases hpath : c.templatePath with
  | none => exact ⟨_, _, .builtin hc hpath⟩
  | some path =>
    cases hread : fs.read path with
    | error cause => exact ⟨_, _, .templateUnreadable hc hpath hread⟩
    | ok source =>
      cases hcompiled : Renderer.ofSource E source with
      | error e => exact ⟨_, _, .templateFaulty hc hpath hread hcompiled⟩
      | ok renderer => exact ⟨_, _, .custom hc hpath hread hcompiled⟩

/-- Every directory is one of the cases. -/
theorem exists_startup (E : Template.Engine) (toml : Toml.Decoder) (fs : FileSystem) (dir : Path) :
    ∃ r events, Startup E toml fs dir r events := by
  cases hfile : fs.isFile (dir.join Config.fileName) with
  | false => exact exists_startup_of_inEffect (.absent hfile)
  | true =>
    cases hread : fs.read (dir.join Config.fileName) with
    | error cause => exact ⟨_, _, .configUnreadable hfile hread⟩
    | ok source =>
      cases hparse : Config.parse toml source with
      | error e =>
        obtain ⟨cause, rfl⟩ := Config.eq_malformed_of_parse hparse
        exact ⟨_, _, .configMalformed hfile hread hparse⟩
      | ok c =>
        exact exists_startup_of_inEffect (.loaded hfile hread hparse (Config.anchoredAt_anchor _ _))

theorem startup_iff : Startup E toml fs dir r events ↔
    (discover E toml fs dir).result = r ∧ (discover E toml fs dir).events = events := by
  constructor
  · intro h
    exact ⟨congrArg Logged.value h.run_discover, congrArg Logged.events h.run_discover⟩
  · rintro ⟨rfl, rfl⟩
    obtain ⟨r, events, h⟩ := exists_startup E toml fs dir
    rw [Attempt.result, Attempt.events, h.run_discover]
    exact h

theorem Startup.unique {r' : Except Failure (Extension E)} {events' : List Event}
    (h : Startup E toml fs dir r events) (h' : Startup E toml fs dir r' events') :
    r = r' ∧ events = events' := by
  obtain ⟨hr, hevents⟩ := startup_iff.1 h
  obtain ⟨hr', hevents'⟩ := startup_iff.1 h'
  exact ⟨hr.symm.trans hr', hevents.symm.trans hevents'⟩

/-! ## What is told -/

/-- A template is told of if it was read, also when it has a fault. -/
theorem Startup.templateRead_mem_iff (h : Startup E toml fs dir r events) :
    .templateRead path ∈ events ↔ ∃ c source, Config.InEffect toml fs dir c ∧
      c.templatePath = some path ∧ fs.read path = .ok source := by
  constructor
  · intro hmem
    cases h with
    | configUnreadable => cases hmem
    | configMalformed => cases hmem
    | templateUnreadable => cases hmem
    | templateFaulty hc hpath hread =>
      obtain rfl : path = _ := by simpa using hmem
      exact ⟨_, _, hc, hpath, hread⟩
    | builtin => simp at hmem
    | custom hc hpath hread =>
      obtain rfl : path = _ := by simpa using hmem
      exact ⟨_, _, hc, hpath, hread⟩
  · rintro ⟨c, source, hc, hpath, hread⟩
    cases hcompiled : Renderer.ofSource E source with
    | error e =>
      rw [(h.unique (.templateFaulty hc hpath hread hcompiled)).2]
      exact List.mem_singleton_self _
    | ok renderer =>
      rw [(h.unique (.custom hc hpath hread hcompiled)).2]
      exact List.mem_cons_self

/-- The extension itself is told of if it started. -/
theorem Startup.extensionConfigured_mem_iff {n : Nat} {custom : Bool}
    (h : Startup E toml fs dir r events) : .extensionConfigured n custom ∈ events ↔
    ∃ e c, r = .ok e ∧ Config.InEffect toml fs dir c ∧ n = e.markers.size ∧
      custom = c.templatePath.isSome := by
  cases h with
  | configUnreadable => simp
  | configMalformed => simp
  | templateUnreadable => simp
  | templateFaulty => simp
  | builtin hc hpath =>
    constructor
    · intro hmem
      obtain ⟨rfl, rfl⟩ : n = _ ∧ custom = false := by simpa using hmem
      exact ⟨_, _, rfl, hc, rfl, by rw [hpath]; rfl⟩
    · rintro ⟨e, c', he, hc', rfl, rfl⟩
      cases he
      rw [← hc.unique hc', hpath]
      exact List.mem_singleton_self _
  | custom hc hpath =>
    constructor
    · intro hmem
      obtain ⟨rfl, rfl⟩ : n = _ ∧ custom = true := by simpa using hmem
      exact ⟨_, _, rfl, hc, rfl, by rw [hpath]; rfl⟩
    · rintro ⟨e, c', he, hc', rfl, rfl⟩
      cases he
      rw [← hc.unique hc', hpath]
      exact List.mem_cons_of_mem _ (List.mem_singleton_self _)

/-! ## What has started -/

/-- What a configuration has its classes rendered with: its template compiled, or the built-in one
if it names none. -/
inductive RendersWith (fs : FileSystem) (c : Config) : Renderer E → Prop where
  | builtin {renderer : Renderer E} (hpath : c.templatePath = none)
      (hcompiled : Renderer.builtin E = .ok renderer) : RendersWith fs c renderer
  | custom {path : Path} {source : String} {renderer : Renderer E}
      (hpath : c.templatePath = some path) (hread : fs.read path = .ok source)
      (hcompiled : Renderer.ofSource E source = .ok renderer) : RendersWith fs c renderer

theorem Startup.generate {e : Extension E} (h : Startup E toml fs dir (.ok e) events) :
    ∃ c, Config.InEffect toml fs dir c ∧
      ((∃ renderer : Renderer E, RendersWith fs c renderer ∧ ∀ request, e.generate request
          = MapBacked.generate .mapFamily (.ofConfig c.markers) renderer request) ∨
        ∃ cause, c.templatePath = none ∧ Renderer.builtin E = .error cause ∧
          ∀ request, e.generate request
            = throw (.embeddedTemplate (Failure.template cause).message)) := by
  cases h with
  | builtin hc hpath =>
    refine ⟨_, hc, ?_⟩
    cases hbuiltin : Renderer.builtin E with
    | ok renderer =>
      exact .inl ⟨renderer, .builtin hpath hbuiltin, generate_of_builtin hbuiltin rfl⟩
    | error cause =>
      exact .inr ⟨cause, hpath, rfl, generate_of_builtin_fault hbuiltin rfl⟩
  | custom hc hpath hread hcompiled =>
    exact ⟨_, hc, .inl ⟨_, .custom hpath hread hcompiled, generate_of_renderer rfl⟩⟩

/-- **An extension starts as a whole or not at all.** Whatever the engine and the decoder, a
directory and what stands in the files have one of the outcomes that `Startup` lists, and this is
what starting there comes to: the first fault on the way from the file of the configuration to the
compiled template, or the extension. A template is told of just if it was read, and the extension
just if it started, with the number of its rules and whether it has a template of its own. A
template path leads to where the directory would lead it. And what the extension generates later is
what the rules of the configuration and its template, or the built-in one, generate over the known
types; an engine that could not compile the built-in template would answer every request with that
failure. -/
theorem starts_as_a_whole (E : Template.Engine) (toml : Toml.Decoder) (fs : FileSystem)
    (dir : Path) :
    (∀ r events, Startup E toml fs dir r events ↔
      (discover E toml fs dir).result = r ∧ (discover E toml fs dir).events = events) ∧
    (∀ path, .templateRead path ∈ (discover E toml fs dir).events ↔
      ∃ c source, Config.InEffect toml fs dir c ∧ c.templatePath = some path ∧
        fs.read path = .ok source) ∧
    (∀ n custom, .extensionConfigured n custom ∈ (discover E toml fs dir).events ↔
      ∃ e c, (discover E toml fs dir).result = .ok e ∧ Config.InEffect toml fs dir c ∧
        n = e.markers.size ∧ custom = c.templatePath.isSome) ∧
    (∀ source c t, fs.isFile (dir.join Config.fileName) = true →
      fs.read (dir.join Config.fileName) = .ok source → Config.parse toml source = .ok c →
      c.templatePath = some t → ∃ c' path, Config.InEffect toml fs dir c' ∧
        c'.markers = c.markers ∧ c'.templatePath = some path ∧ path.parts = (dir.join t).parts) ∧
    (∀ e, (discover E toml fs dir).result = .ok e → ∃ c, Config.InEffect toml fs dir c ∧
      ((∃ renderer : Renderer E, RendersWith fs c renderer ∧ ∀ request, e.generate request
          = MapBacked.generate .mapFamily (.ofConfig c.markers) renderer request) ∨
        ∃ cause, c.templatePath = none ∧ Renderer.builtin E = .error cause ∧
          ∀ request, e.generate request
            = throw (.embeddedTemplate (Failure.template cause).message))) := by
  have h : Startup E toml fs dir (discover E toml fs dir).result
      (discover E toml fs dir).events := startup_iff.2 ⟨rfl, rfl⟩
  refine ⟨fun _ _ => startup_iff, fun _ => h.templateRead_mem_iff,
    fun _ _ => h.extensionConfigured_mem_iff, ?path, ?started⟩
  case path =>
    intro source c t hfile hread hparse ht
    have hanchored := Config.anchoredAt_anchor (dir.join Config.fileName) c
    obtain ⟨path, hpath, hparts⟩ := Config.parts_templatePath_anchor dir ht
    exact ⟨_, path, .loaded hfile hread hparse hanchored, hanchored.markers, hpath, hparts⟩
  case started =>
    intro e he
    rw [he] at h
    exact h.generate

/-! ## Some directories -/

/-- A directory with a configuration that cannot be read, two with a template that cannot be read or
has a fault, and one in which nothing is wrong. -/
def startFiles : FileSystem where
  entry p :=
    if p = ⟨"locked/automap.toml"⟩ then .locked
    else if p = ⟨"lost/automap.toml"⟩ then .file "template.path='keys.j2'".toByteArray
    else if p = ⟨"faulty/automap.toml"⟩ then .file "template.path='/open.j2'".toByteArray
    else if p = ⟨"/open.j2"⟩ then .file "\x7b\x7b".toByteArray
    else if p = ⟨"app/automap.toml"⟩ then .file "template.path='keys.j2'".toByteArray
    else if p = ⟨"app/keys.j2"⟩ then .file "§".toByteArray
    else .absent

theorem starts_as_a_whole_directories :
    (discover .ofTrees .ofParse startFiles ⟨"locked"⟩).result
      = .error (.config (.unreadable ⟨"locked/automap.toml"⟩ .denied)) ∧
    (discover .ofTrees .ofParse startFiles ⟨"lost"⟩).result
      = .error (.templateUnreadable ⟨"lost/keys.j2"⟩ .notFound) ∧
    (discover .ofTrees .ofParse startFiles ⟨"faulty"⟩).result
      = .error (.template "SyntaxError") ∧
    (discover .ofTrees .ofParse startFiles ⟨"faulty"⟩).events = [.templateRead ⟨"/open.j2"⟩] ∧
    (∃ c path, Config.InEffect .ofParse startFiles ⟨"app"⟩ c ∧ c.templatePath = some path ∧
      path.parts = ["app".toList, "keys.j2".toList]) ∧
    ∃ e, (discover .ofTrees .ofParse startFiles ⟨"app"⟩).result = .ok e ∧
      .extensionConfigured 8 true ∈ (discover .ofTrees .ofParse startFiles ⟨"app"⟩).events ∧
      ∀ request, e.generate request
        = MapBacked.generate (E := .ofTrees) .mapFamily .builtin ⟨[.text "§"]⟩ request := by
  have hrelative : Config.parse .ofParse "template.path='keys.j2'"
      = .ok ⟨.empty, some ⟨"keys.j2"⟩⟩ := Config.parse_ofParse_of_some (by decide +kernel)
  have habsolute : Config.parse .ofParse "template.path='/open.j2'"
      = .ok ⟨.empty, some ⟨"/open.j2"⟩⟩ := Config.parse_ofParse_of_some (by decide +kernel)
  have hfaulty : Startup .ofTrees .ofParse startFiles ⟨"faulty"⟩ (.error (.template "SyntaxError"))
      [.templateRead ⟨"/open.j2"⟩] := by
    have hc : Config.InEffect .ofParse startFiles ⟨"faulty"⟩ ⟨.empty, some ⟨"/open.j2"⟩⟩ :=
      .of_file ⟨"faulty/automap.toml"⟩ (by decide) rfl habsolute (by decide +kernel)
    exact .templateFaulty hc rfl (FileSystem.read_of_file rfl) rfl
  refine ⟨?locked, ?lost, ?faulty, ?faultyEvents, ?path, ?app⟩
  case locked =>
    obtain ⟨hstartup, -⟩ := starts_as_a_whole .ofTrees .ofParse startFiles ⟨"locked"⟩
    have hjoin : (⟨"locked"⟩ : Path).join Config.fileName = ⟨"locked/automap.toml"⟩ := by decide
    rw [← hjoin]
    refine ((hstartup _ _).1 (.configUnreadable ?_ ?_)).1
    · rw [hjoin]
      rfl
    · rw [hjoin]
      rfl
  case lost =>
    obtain ⟨hstartup, -⟩ := starts_as_a_whole .ofTrees .ofParse startFiles ⟨"lost"⟩
    have hlost : Config.InEffect .ofParse startFiles ⟨"lost"⟩ ⟨.empty, some ⟨"lost/keys.j2"⟩⟩ :=
      .of_file ⟨"lost/automap.toml"⟩ (by decide) rfl hrelative (by decide +kernel)
    exact ((hstartup _ _).1 (.templateUnreadable hlost rfl rfl)).1
  case faulty =>
    obtain ⟨hstartup, -⟩ := starts_as_a_whole .ofTrees .ofParse startFiles ⟨"faulty"⟩
    exact ((hstartup _ _).1 hfaulty).1
  case faultyEvents =>
    obtain ⟨hstartup, -⟩ := starts_as_a_whole .ofTrees .ofParse startFiles ⟨"faulty"⟩
    exact ((hstartup _ _).1 hfaulty).2
  case path =>
    obtain ⟨-, -, -, hpath, -⟩ := starts_as_a_whole .ofTrees .ofParse startFiles ⟨"app"⟩
    have hjoin : (⟨"app"⟩ : Path).join Config.fileName = ⟨"app/automap.toml"⟩ := by decide
    rw [hjoin] at hpath
    obtain ⟨c, path, hc, -, ht, hparts⟩ :=
      hpath _ _ _ rfl (FileSystem.read_of_file rfl) hrelative rfl
    exact ⟨c, path, hc, ht, hparts.trans (by decide)⟩
  case app =>
    obtain ⟨hstartup, -, hconfigured, -, hstarted⟩ :=
      starts_as_a_whole .ofTrees .ofParse startFiles ⟨"app"⟩
    have happ : Config.InEffect .ofParse startFiles ⟨"app"⟩ ⟨.empty, some ⟨"app/keys.j2"⟩⟩ :=
      .of_file ⟨"app/automap.toml"⟩ (by decide) rfl hrelative (by decide +kernel)
    have hread : startFiles.read ⟨"app/keys.j2"⟩ = .ok "§" := FileSystem.read_of_file rfl
    have hcompiled : Renderer.ofSource .ofTrees "§" = .ok ⟨[.text "§"]⟩ := rfl
    obtain ⟨he, -⟩ := (hstartup _ _).1 (.custom happ rfl hread hcompiled)
    refine ⟨_, he, (hconfigured 8 true).2 ⟨_, _, he, happ, rfl, rfl⟩, ?_⟩
    obtain ⟨c, hc, ⟨renderer, hrenders, hgenerate⟩ | ⟨_, hpath, -, -⟩⟩ := hstarted _ he
    · rw [← happ.unique hc] at hrenders hgenerate
      cases hrenders with
      | builtin hpath => cases hpath
      | custom hpath hread' hcompiled' =>
        cases hpath
        rw [hread] at hread'
        cases hread'
        rw [hcompiled] at hcompiled'
        cases hcompiled'
        exact hgenerate
    · rw [← happ.unique hc] at hpath
      cases hpath

end Extension

end MapBacked
