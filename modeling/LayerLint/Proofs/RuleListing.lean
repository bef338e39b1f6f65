import LayerLint.Proofs.Verdict

/-!
# Two commands under one configuration file

A check and the list of the rules may both be given a configuration file.  They settle it each in a
way of its own.

* `FileSystem.find_join_currentPath` — a relative path leads to the same entry with the working
  directory in front of it and without;
* `RuleListing.listedOn_render` — the rules that a list shows as on can be read off its text;
* `RuleListing.given_file_agrees` — **where the path names a file, both commands refuse it or both
  take it, and then the list shows as on what the check registers.**  Where it names no file, the
  check refuses it and the list shows the defaults.
-/

set_option autoImplicit false

namespace LayerLint

/-! ## Relative paths -/

/-- No path leads to a file through an empty last segment. -/
theorem Entry.follow_concat_empty (content : Content) (lead : List String) (outer : List Entry)
    (entry : Entry) : follow outer entry (lead ++ [""]) ≠ .ok (.file content) := by
  induction lead generalizing outer entry with
  | nil =>
    cases entry with
    | file _ => simp [follow]
    | directory entries => simp [follow, Path.isVoid]
  | cons s lead ih =>
    cases entry with
    | file _ => simp [follow]
    | directory entries =>
      rw [List.cons_append, follow_directory_cons]
      split
      · exact ih outer _
      · split
        · cases outer with
          | nil => exact ih [] _
          | cons parent further => exact ih further parent
        · cases entries.lookup s with
          | none => simp
          | some entry => exact ih _ entry

namespace FileSystem

/-- The names that lead to the working directory hold no slash, as names of directories do. -/
def WellPlaced (fs : FileSystem) : Prop :=
  ∀ name ∈ fs.workingDirectory, '/' ∉ name.toList

theorem isAbsolute_currentPath (fs : FileSystem) : fs.currentPath.isAbsolute = true := by
  simp [currentPath, Path.isAbsolute, Text.startsWith]

theorem text_currentPath_ne (fs : FileSystem) : fs.currentPath.text ≠ "" := by
  simp [currentPath]

theorem steps_currentPath {fs : FileSystem} (hfs : fs.WellPlaced) :
    Path.steps fs.currentPath.segments = Path.steps fs.workingDirectory := by
  have hroot : fs.currentPath.segments =
      "" :: Path.segments ⟨"/".intercalate fs.workingDirectory⟩ := by
    have h := Path.segments_append_slash "" ("/".intercalate fs.workingDirectory)
    rw [String.empty_append] at h
    exact h
  rw [hroot]
  cases hnames : fs.workingDirectory with
  | nil => rfl
  | cons name names =>
    rw [Path.segments_intercalate (List.cons_ne_nil name names) (hnames ▸ hfs)]
    simp [Path.steps, Path.isVoid]

/-- **A relative path leads to the same entry from the working directory.** -/
theorem find_join_currentPath {fs : FileSystem} (hfs : fs.WellPlaced) {p : Path} (hp : p.text ≠ "") :
    fs.find (fs.currentPath.join p) = fs.find p := by
  by_cases habs : p.isAbsolute = true
  · rw [Path.join_of_isAbsolute _ habs]
  · have hrelative : p.isAbsolute = false := by simpa using habs
    have hcurrent := text_currentPath_ne fs
    obtain ⟨lead, hsegments, -, hsteps⟩ := Path.segments_join hcurrent hrelative
    have hrest := Path.segments_ne_nil p
    rw [find_of_text_ne (Path.text_join_ne_empty hcurrent hrelative), find_of_text_ne hp]
    simp only [segments, Path.isAbsolute_join hcurrent hrelative, isAbsolute_currentPath, if_true,
      hrelative, Bool.false_eq_true, if_false, hsegments]
    rw [Entry.follow_append_eq hrest, hsteps, steps_currentPath hfs,
      ← Entry.follow_append_eq hrest]

/-- The working directory itself is no file. -/
theorem find_join_empty_ne (fs : FileSystem) (content : Content) :
    fs.find (fs.currentPath.join ⟨""⟩) ≠ .ok (.file content) := by
  have hcurrent := text_currentPath_ne fs
  obtain ⟨lead, hsegments, -⟩ := Path.segments_join (q := ⟨""⟩) hcurrent rfl
  rw [find_of_text_ne (Path.text_join_ne_empty hcurrent rfl)]
  simp only [segments, Path.isAbsolute_join hcurrent (q := ⟨""⟩) rfl, isAbsolute_currentPath,
    if_true, hsegments]
  exact Entry.follow_concat_empty content lead [] _

theorem isFile_join_currentPath {fs : FileSystem} (hfs : fs.WellPlaced) (p : Path) :
    fs.isFile (fs.currentPath.join p) = fs.isFile p := by
  by_cases hp : p.text = ""
  · obtain ⟨text⟩ := p
    cases hp
    have hnone : fs.isFile ⟨""⟩ = false := by simp [isFile, find]
    rw [hnone, isFile]
    split
    · rename_i content hfile
      exact absurd hfile (find_join_empty_ne fs content)
    · rfl
  · rw [isFile, isFile, find_join_currentPath hfs hp]

end FileSystem

/-! ## Reading the list of the rules -/

namespace Report.Plain

/-- Lines that hold no line break are the first lines of a text that begins with them. -/
theorem split_ofLines_append (more : List String) : ∀ {lines : List String},
    (∀ line ∈ lines, '\n' ∉ line.toList) →
      Text.split (· == '\n') (ofLines (lines ++ more)) =
        lines ++ Text.split (· == '\n') (ofLines more)
  | [], _ => rfl
  | line :: lines, h => by
    have ih := split_ofLines_append more fun other hother => h other (List.mem_cons_of_mem _ hother)
    have hline : Text.pieces (· == '\n') line.toList = [line.toList] := by
      refine Text.pieces_eq_singleton fun c hc => ?_
      rw [beq_eq_false_iff_ne]
      exact fun heq => h line List.mem_cons_self (heq ▸ hc)
    have htext : (ofLines (line :: lines ++ more)).toList =
        line.toList ++ '\n' :: (ofLines (lines ++ more)).toList := by
      simp [ofLines]
    rw [Text.split, htext, Text.pieces_append_cons rfl, hline, List.map_append, ← Text.split, ih]
    simp

end Report.Plain

/-! Nothing is repainted inside a text that holds no control sequence. -/

namespace Report.Paint

/-- What stands before a painted text. -/
def opening (paint : Paint) (colors : Bool) : String :=
  if colors then sequence paint.codes else ""

/-- What stands after a painted text. -/
def closing (colors : Bool) : String :=
  if colors then reset else ""

theorem apply_eq (paint : Paint) (colors : Bool) {text : String} (h : '\x1b' ∉ text.toList) :
    paint.apply colors text = paint.opening colors ++ text ++ closing colors := by
  cases colors with
  | false => simp [apply, opening, closing]
  | true =>
    have hnone : Text.cutFirst? reset text = none := by
      have hcut := Text.cutAtFirst?_eq_none "[0m".toList h
      rw [Text.cutFirst?, show reset.toList = '\x1b' :: "[0m".toList from by decide, hcut]
      rfl
    have hinsert : ∀ insert fuel, insertAfter reset insert fuel text = text := by
      intro insert fuel
      cases fuel with
      | zero => rfl
      | succ fuel => rw [insertAfter, hnone]
    simp [apply, opening, closing, hinsert]

end Report.Paint

namespace RuleListing

open Report (Paint)

/-- A character that neither ends a line or a word nor begins a control sequence. -/
def isPlain (c : Char) : Bool :=
  c != ' ' && c != '\n' && c != '\x1b'

/-- What stands before the identifier in the line of a rule. -/
def lead (colors enabled : Bool) : String :=
  "  " ++ Report.RuleList.status colors enabled ++ " " ++ Paint.yellow.opening colors

/-- The rule that a line shows as on. -/
def onRule? (colors : Bool) (line : String) : Option String :=
  (Text.dropLead? (lead colors true) line).map fun rest => String.ofList (rest.toList.takeWhile isPlain)

/-- The rules that a list shows as on, in their order.  The lines of the rules stand between the
    heading and an empty line. -/
def listedOn (colors : Bool) (text : String) : List String :=
  (((Text.split (· == '\n') text).drop 2).takeWhile (· != "")).filterMap (onRule? colors)

/-- Lines of rules that are on and of rules that are off begin with different characters. -/
theorem take_lead_ne : ∀ colors : Bool,
    (lead colors true).toList.take 6 ≠ (lead colors false).toList.take 6 := by
  decide

theorem six_le_length_lead : ∀ colors enabled : Bool, 6 ≤ (lead colors enabled).toList.length := by
  decide

section

variable (colors : Bool) {line : RuleLine}

/-- The line of a rule, with what its colours come to. -/
theorem ruleText_eq (hid : ∀ c ∈ line.id.toList, isPlain c = true) :
    ∃ blanks : List Char, (∀ c ∈ blanks, c = ' ') ∧
      (Report.RuleList.ruleText colors line).toList =
        (lead colors line.enabled).toList ++
          (line.id.toList ++ (blanks ++ (Paint.closing colors).toList ++
            ' ' :: line.description.toList)) := by
  have hescape : '\x1b' ∉ (Report.RuleList.padded 52 line.id).toList := by
    simp only [Report.RuleList.padded, String.toList_append, String.toList_ofList, List.mem_append,
      not_or]
    exact ⟨fun h => absurd (hid _ h) (by decide),
      fun h => absurd (List.eq_of_mem_replicate h) (by decide)⟩
  refine ⟨List.replicate (52 - line.id.length) ' ', fun c hc => List.eq_of_mem_replicate hc, ?_⟩
  rw [Report.RuleList.ruleText, Paint.apply_eq _ _ hescape]
  simp [Report.RuleList.padded, lead]

theorem onRule?_ruleText (hid : ∀ c ∈ line.id.toList, isPlain c = true) :
    onRule? colors (Report.RuleList.ruleText colors line) =
      if line.enabled then some line.id else none := by
  obtain ⟨blanks, hblanks, htext⟩ := ruleText_eq colors hid
  rw [onRule?, Text.dropLead?, htext]
  cases hon : line.enabled with
  | true =>
    have hdrop : ∀ rest,
        (lead colors true).toList.isPrefixOf? ((lead colors true).toList ++ rest) = some rest :=
      fun rest => List.isPrefixOf?_eq_some_iff_append_eq.2 rfl
    have hend : ∀ c ∈ (blanks ++ (Paint.closing colors).toList ++
        ' ' :: line.description.toList).head?, isPlain c = false := by
      intro c hc
      cases blanks with
      | cons b blanks =>
        obtain rfl : b = c := by simpa using hc
        rw [hblanks b List.mem_cons_self]
        rfl
      | nil =>
        cases colors with
        | false =>
          obtain rfl : ' ' = c := by simpa [Paint.closing] using hc
          rfl
        | true =>
          obtain rfl : '\x1b' = c := by simpa [Paint.closing, Paint.reset, Paint.sequence] using hc
          rfl
    rw [hdrop]
    simp only [Option.map_some, String.toList_ofList, Text.takeWhile_append hid hend,
      String.ofList_toList, if_true]
  | false =>
    have hnone : ∀ rest,
        (lead colors true).toList.isPrefixOf? ((lead colors false).toList ++ rest) = none := by
      intro rest
      rw [Option.eq_none_iff_forall_ne_some]
      intro more hmore
      have heq := congrArg (List.take 6) (List.isPrefixOf?_eq_some_iff_append_eq.1 hmore)
      rw [List.take_append_of_le_length (six_le_length_lead colors true),
        List.take_append_of_le_length (six_le_length_lead colors false)] at heq
      exact take_lead_ne colors heq
    rw [hnone]
    rfl

/-- The line of a rule is one line, and is not empty. -/
theorem ruleText_line (hid : ∀ c ∈ line.id.toList, isPlain c = true)
    (hdescription : '\n' ∉ line.description.toList) :
    '\n' ∉ (Report.RuleList.ruleText colors line).toList ∧
      Report.RuleList.ruleText colors line ≠ "" := by
  obtain ⟨blanks, hblanks, htext⟩ := ruleText_eq colors hid
  have hlead : ∀ colors enabled : Bool, '\n' ∉ (lead colors enabled).toList := by decide
  have hclosing : ∀ colors : Bool, '\n' ∉ (Paint.closing colors).toList := by decide
  constructor
  · rw [htext]
    simp only [List.mem_append, List.mem_cons, not_or]
    exact ⟨hlead _ _, fun h => absurd (hid _ h) (by decide),
      ⟨fun h => absurd (hblanks _ h) (by decide), hclosing _⟩, by decide, hdescription⟩
  · intro hempty
    have hlength := six_le_length_lead colors line.enabled
    rw [hempty] at htext
    have hzero := congrArg List.length htext
    simp only [String.toList_empty, List.length_nil, List.length_append] at hzero
    omega

end

/-- A written-out text is taken for the list of its characters, which are faster to look through. -/
theorem not_mem_of_ofList {c : Char} {cs : List Char} (h : c ∉ cs) :
    c ∉ (String.ofList cs).toList := by
  rwa [String.toList_ofList]

/-- Descriptions of rules are lines. -/
theorem description_of_mem : ∀ rule ∈ defaultRules, '\n' ∉ rule.description.toList := by
  simp only [defaultRules, List.forall_mem_cons]
  refine ⟨?_, ?_, ?_, ?_, ?_, ?_, ?_, ?_, ?_, ?_, List.forall_mem_nil _⟩ <;>
    exact not_mem_of_ofList (by decide)

/-- Identifiers of rules are words. -/
theorem id_of_mem : ∀ rule ∈ defaultRules, ∀ c ∈ rule.id.toList, isPlain c = true := by
  have hall : defaultRules.all (fun rule => rule.id.toList.all isPlain) = true := by
    decide +kernel
  intro rule hrule
  exact List.all_eq_true.1 (List.all_eq_true.1 hall rule hrule)

/-- **The rules that are on can be read off the list.** -/
theorem listedOn_render (colors : Bool) (found : Option Path) (config : Config) :
    listedOn colors (Report.RuleList.render colors found config) =
      (defaultRules.filter fun rule => config.rules.isEnabled rule.id).map Rule.id := by
  have hheading : ∀ colors : Bool, '\n' ∉ (Paint.bold.apply colors "Registered rules:").toList := by
    decide
  let heading := Paint.bold.apply colors "Registered rules:"
  let texts := (ruleLines config).map (Report.RuleList.ruleText colors)
  have hplain : ∀ line ∈ ruleLines config,
      (∀ c ∈ line.id.toList, isPlain c = true) ∧ '\n' ∉ line.description.toList := by
    intro line hline
    obtain ⟨rule, hrule, rfl⟩ := List.mem_map.1 hline
    exact ⟨id_of_mem rule hrule, description_of_mem rule hrule⟩
  have htexts : ∀ text ∈ texts, '\n' ∉ text.toList ∧ text ≠ "" := by
    intro text htext
    obtain ⟨line, hline, rfl⟩ := List.mem_map.1 htext
    exact ruleText_line colors (hplain line hline).1 (hplain line hline).2
  have hlines : ∀ line ∈ ["", heading] ++ texts ++ [""], '\n' ∉ line.toList := by
    simp only [List.mem_append, List.mem_cons, List.not_mem_nil, or_false]
    rintro line (((rfl | rfl) | hline) | rfl)
    · decide
    · exact hheading colors
    · exact (htexts line hline).1
    · decide
  have hsplit := Report.Plain.split_ofLines_append (Report.RuleList.advice found) hlines
  have hrules : ∀ rest : List String,
      ((["", heading] ++ texts ++ [""] ++ rest).drop 2).takeWhile (· != "") = texts := by
    intro rest
    have hdrop : (["", heading] ++ texts ++ [""] ++ rest).drop 2 = texts ++ "" :: rest := by simp
    rw [hdrop, List.takeWhile_append_of_pos fun text htext => by simpa using (htexts text htext).2]
    simp
  have hon : ∀ rule ∈ defaultRules,
      onRule? colors (Report.RuleList.ruleText colors
        { enabled := config.rules.isEnabled rule.id, id := rule.id,
          description := rule.description }) =
        if config.rules.isEnabled rule.id then some rule.id else none :=
    fun rule hrule => onRule?_ruleText colors (id_of_mem rule hrule)
  rw [listedOn, Report.RuleList.render, hsplit, hrules]
  simp only [texts, ruleLines, List.map_map, List.filterMap_map, Function.comp_def]
  rw [List.filterMap_congr hon, ← List.filterMap_eq_map, List.filterMap_filter]
  rfl

/-! ## The whole -/

section

variable {fs : FileSystem} {p : Path}

theorem settle_of_isFile (h : fs.isFile p = true) :
    settle fs (some p) = (Config.load fs p).map fun config => (some p, config) := by
  simp [settle, configPath, h]

theorem settle_of_not_isFile (h : fs.isFile p = false) : settle fs (some p) = .ok (none, {}) := by
  simp [settle, configPath, h]

theorem not_usable_of_not_isFile (h : fs.isFile p = false) : ¬ Config.Usable fs p := by
  rintro ⟨text, config, hfind, -⟩
  simp [FileSystem.isFile, hfind] at h

/-- The two commands name one file in different ways, which shows in errors only. -/
theorem load_join_currentPath (hfs : fs.WellPlaced) (h : fs.isFile p = true) (config : Config) :
    Config.load fs (fs.currentPath.join p) = .ok config ↔ Config.load fs p = .ok config := by
  have hp : p.text ≠ "" := by
    intro hempty
    simp [FileSystem.isFile, FileSystem.find, hempty] at h
  rw [Config.load_eq_ok_iff, Config.load_eq_ok_iff, FileSystem.find_join_currentPath hfs hp]

end

/-- A check of something that is there is refused because of its configuration. -/
def Refused (fs : FileSystem) (options : CheckOptions) : Prop :=
  ∃ cause, Check.perform fs options = .error (.config cause)

section

variable {fs : FileSystem} {p : Path} (options : CheckOptions)

theorem refused_iff (hconfig : options.config = some p)
    (htarget : fs.exists? (fs.currentPath.join options.target) = true) :
    Refused fs options ↔ ¬ Config.Usable fs (fs.currentPath.join p) := by
  have hsettle := Check.exists_settle_error_iff fs (fs.currentPath.join options.target) (some p)
  simp only [Check.governing?, Option.some.injEq, exists_eq_left'] at hsettle
  rw [← hsettle, Refused]
  constructor
  · rintro ⟨cause, hcause⟩
    rcases hcase : Check.settle fs (fs.currentPath.join options.target) (some p) with
      found | ⟨root, settings⟩
    · exact ⟨found, rfl⟩
    · rw [Check.perform_of_settled options htarget (hconfig ▸ hcase)] at hcause
      cases hcause
  · rintro ⟨cause, hcause⟩
    exact ⟨cause, Check.perform_of_unsettled options htarget (hconfig ▸ hcause)⟩

/-- A check that is not refused has the configuration that its file holds. -/
theorem perform_of_usable (hconfig : options.config = some p)
    (htarget : fs.exists? (fs.currentPath.join options.target) = true)
    (settings : Config) (hload : Config.load fs (fs.currentPath.join p) = .ok settings) :
    ∃ result, Check.perform fs options = .ok result ∧ result.config.rules = settings.rules := by
  have hsettle : Check.settle fs (fs.currentPath.join options.target) options.config =
      .ok (Check.projectRoot fs (fs.currentPath.join options.target) (some p), settings) := by
    rw [hconfig, Check.settle_eq, Check.governing?, Option.elim_some, hload]
    rfl
  exact ⟨_, Check.perform_of_settled options htarget hsettle, rfl⟩

end

/-- **Where the given path names a file, the two commands agree on it.**  A check of something that
    is there ends with two just if it is refused because of its configuration.  The list ends with
    two just then if the path names a file, and shows otherwise as on the rules that the check
    registers, in their order.  If the path names no file, the check is refused and the list shows
    the rules that are on by default. -/
theorem given_file_agrees (fs : FileSystem) (hfs : fs.WellPlaced) (colors : Bool) (p : Path)
    (options : CheckOptions) (hconfig : options.config = some p)
    (htarget : fs.exists? (fs.currentPath.join options.target) = true) :
    let listing := Command.run fs colors (.rules (some p))
    ((Command.run fs colors (.check options)).exitCode = 2 ↔ Refused fs options) ∧
    (fs.isFile p = true →
      (listing.exitCode = 2 ↔ Refused fs options) ∧
      (¬ Refused fs options → ∃ result, Check.perform fs options = .ok result ∧
        listedOn colors listing.stdout = (Engine.ofConfig result.config).rules.map Rule.id)) ∧
    (fs.isFile p = false → Refused fs options ∧ listing.exitCode = 0 ∧
      listedOn colors listing.stdout = (Engine.ofConfig {}).rules.map Rule.id) := by
  intro listing
  have hrefused := refused_iff options hconfig htarget
  have hperform := perform_of_usable options hconfig htarget
  have hlisting : listing = run fs colors (some p) := rfl
  have hregistered : ∀ config : Config, (Engine.ofConfig config).rules =
      defaultRules.filter fun rule => config.rules.isEnabled rule.id :=
    fun config => Engine.rules_ofRules _
  refine ⟨?_, fun hfile => ?_, fun hfile => ?_⟩
  · by_cases h : Refused fs options
    · obtain ⟨cause, hcause⟩ := h
      exact iff_of_true (Check.exitCode_run_of_error colors hcause) ⟨cause, hcause⟩
    · rw [hrefused, not_not, Config.usable_iff] at h
      obtain ⟨settings, hload⟩ := h
      obtain ⟨result, hresult, -⟩ := hperform settings hload
      refine iff_of_false ?_ ?_
      · rw [Command.run, Check.exitCode_run_of_ok colors hresult]
        exact Check.exitCode_ne_two _
      · rintro ⟨cause, hcause⟩
        rw [hresult] at hcause
        cases hcause
  · have hsame := load_join_currentPath hfs hfile
    rw [hlisting, run, settle_of_isFile hfile, hrefused, Config.usable_iff]
    simp only [hsame] at hperform ⊢
    cases hload : Config.load fs p with
    | error cause => simp [Except.map, Outcome.misuse]
    | ok settings =>
      obtain ⟨result, hresult, hrules⟩ := hperform settings hload
      refine ⟨by simp [Except.map, Outcome.clean], fun _ => ⟨result, hresult, ?_⟩⟩
      simp only [Except.map, listedOn_render, hregistered, hrules]
  · have hnot : fs.isFile (fs.currentPath.join p) = false := by
      rw [FileSystem.isFile_join_currentPath hfs, hfile]
    rw [hlisting, run, settle_of_not_isFile hfile, hrefused]
    refine ⟨not_usable_of_not_isFile hnot, rfl, ?_⟩
    simp only [listedOn_render, hregistered]

/-- A project with two configuration files, of which one turns a rule off and the other is none. -/
def listedProject : FileSystem where
  root := .directory [("m", .directory
    [("lint.toml", .file (.text "[rules]\ndisabled = [\"noSameEntitySaveRule\"]\n")),
     ("bad.toml", .file (.text "jobs = many\n"))])]
  workingDirectory := ["m"]

/-- Both commands take the first file, and both refuse the second. -/
theorem given_file_agrees_two_files :
    (∃ result, Check.perform listedProject { config := some ⟨"lint.toml"⟩ } = .ok result ∧
      listedOn true (Command.run listedProject true (.rules (some ⟨"lint.toml"⟩))).stdout =
        (Engine.ofConfig result.config).rules.map Rule.id) ∧
    Refused listedProject { config := some ⟨"bad.toml"⟩ } := by
  have hplaced : listedProject.WellPlaced := by
    simp [FileSystem.WellPlaced, listedProject]
  constructor
  · obtain ⟨-, hfile, -⟩ := given_file_agrees listedProject hplaced true ⟨"lint.toml"⟩
      { config := some ⟨"lint.toml"⟩ } rfl (by decide)
    obtain ⟨hcode, hlisted⟩ := hfile (by decide)
    exact hlisted fun hrefused => absurd (hcode.2 hrefused) (by decide +kernel)
  · obtain ⟨-, hfile, -⟩ := given_file_agrees listedProject hplaced true ⟨"bad.toml"⟩
      { config := some ⟨"bad.toml"⟩ } rfl (by decide)
    exact (hfile (by decide)).1.1 (by decide +kernel)

/-- Under a file that is missing a check is refused, while a list of the rules is given. -/
theorem missing_file_listed_as_defaults :
    Refused listedProject { config := some ⟨"missing.toml"⟩ } ∧
      (Command.run listedProject false (.check { config := some ⟨"missing.toml"⟩ })).exitCode = 2 ∧
      (Command.run listedProject false (.rules (some ⟨"missing.toml"⟩))).exitCode = 0 := by
  have htarget : listedProject.exists? (listedProject.currentPath.join ⟨"."⟩) = true := by
    decide
  have hfile : listedProject.isFile (listedProject.currentPath.join ⟨"missing.toml"⟩) = false := by
    decide
  exact ⟨(refused_iff { config := some ⟨"missing.toml"⟩ } rfl htarget).2
    (not_usable_of_not_isFile hfile), by decide, by decide⟩

end RuleListing

end LayerLint
