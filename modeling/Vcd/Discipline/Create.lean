import Vcd.Discipline.Readers

/-!
# Creation keeps the discipline

What `vx.create` found out before it unlinks and before it executes its script: its user,
its name, the directory this resolves to, and the context id.
-/

namespace Vcd

open Sql Process

variable {setup : Setup} {request : Request} {past : Past} {user name param vdir : Str}

/-- The value of a lookup is the one for any oracle that gives the recent answers. -/
theorem Traced.determined {α : Type} {program : Method α} {trace : Past} {value : α}
    (traced : Traced program trace value) {meaning : Oracle → α}
    (means : ∀ oracle, Vcd.answer oracle program = some (meaning oracle)) (oracle : Oracle)
    (agrees : Agrees oracle (Vcd.recent (trace ++ past))) : meaning oracle = value := by
  rw [traced.recent] at agrees
  have known := traced.answer (agrees.mono (List.subset_append_left trace (Vcd.recent past)))
  exact Option.some.inj ((means oracle).symm.trans known)

theorem Creating.mono {after : Past} (creating : Creating setup request past user name param vdir)
    (later : Later past after) : Creating setup request after user name param vdir :=
  { creating with
    untouched := later.untouched creating.untouched
    source := creating.source.mono later.recent
    resolved := fun oracle agrees => creating.resolved oracle (agrees.mono later.recent) }

/-- The context id of the server to be created. -/
def Target (past : Past) (name : Str) (xid : Int) : Prop :=
  Looked (recent past) name xid ∨ Chosen (recent past) xid

theorem Target.mono {after : Past} {xid : Int} (target : Target past name xid)
    (later : Later past after) : Target after name xid :=
  target.imp (·.mono later.recent) (·.mono later.recent)

/-! ## Lookups of a creation -/

theorem lookup_createVdir (host : Host) : Lookup (createVdir host user name param) := by
  unfold createVdir
  split
  · exact lookup_vxdbGetvdir host name
  · refine (lookup_authIsadmin user).bind fun admin => ?_
    split
    · trivial
    · exact lookup_vxdbGetvdir host name

theorem answer_createVdir (oracle : Oracle) (host : Host) :
    answer oracle (createVdir host user name param) =
      some (createVdirIn oracle host user name param) := by
  unfold createVdir createVdirIn
  split
  · exact answer_vxdbGetvdir oracle host name
  · rw [answer_bind, answer_authIsadmin, Option.bind_some]
    split
    · rfl
    · exact answer_vxdbGetvdir oracle host name

theorem traced_vxdbGetvdir {host : Host} (named : request.text (cstr "name") = .ok name)
    {trace : Past} (traced : Traced (vxdbGetvdir host name) trace vdir) :
    Source host request trace vdir := by
  obtain ⟨xid, first, second, rfl, -, traced⟩ := traced_bind traced
  have chosen (found : Str) (read : found = [] ∨
      Read second (sqlGetvdir xid) fun row => vxdbColumnText row 0 = found)
      (same : (if strIsempty found then strPathConcat host.vbasedir name else found) = vdir) :
      Source host request (second ++ first) vdir := by
    subst same
    cases empty : strIsempty found with
    | true => exact .standard named
    | false =>
        have read := read.resolve_left (by rintro rfl; cases empty)
        exact .recorded (read.mono (List.subset_append_left _ _))
  by_cases zero : xid = 0
  · rw [if_pos zero] at traced
    exact chosen [] (.inl rfl) (traced_pure traced).2
  · rw [if_neg zero] at traced
    obtain ⟨reply, later, rfl, ended⟩ := traced_query traced
    rcases reply with _ | _ | ⟨row, rows⟩
    · exact chosen [] (.inl rfl) (traced_pure ended).2
    · exact chosen [] (.inl rfl) (traced_pure ended).2
    · have asked : Asked (later ++ [⟨.prepare (render (sqlGetvdir xid)), some (row :: rows)⟩])
          (sqlGetvdir xid) (some (row :: rows)) :=
        List.mem_append_right _ (List.mem_singleton_self _)
      exact chosen (vxdbColumnText row 0) (.inr ⟨_, row, asked, rfl, rfl⟩) (traced_pure ended).2

theorem traced_createVdir {host : Host} (named : request.text (cstr "name") = .ok name)
    (given : request.text (cstr "vdir") = .ok param) {trace : Past}
    (traced : Traced (createVdir host user name param) trace vdir) :
    Source host request trace vdir := by
  unfold createVdir at traced
  split at traced
  next => exact traced_vxdbGetvdir named traced
  next =>
    obtain ⟨admin, first, second, rfl, -, traced⟩ := traced_bind traced
    cases admin with
    | true =>
        obtain ⟨-, rfl⟩ := traced_pure traced
        exact .given given
    | false => exact (traced_vxdbGetvdir named traced).mono (List.subset_append_left _ _)

theorem meets_createTarget (force : Bool) :
    (createTarget user name force).Meets (discipline setup request) past
      (Finds fun after xid => Later past after ∧ (xid = 0 ∨ Looked (recent after) name xid)) := by
  refine meets_lookup (lookup_vxdbGetxid name) fun xid first firstTraced => ?_
  have looked : xid = 0 ∨ Looked (recent (first ++ past)) name xid := by
    refine (traced_vxdbGetxid firstTraced).imp_right fun looked => ?_
    rw [firstTraced.recent]
    exact looked.mono (by simp)
  have known (after : Past) (later : Later (first ++ past) after) :
      Later past after ∧ (xid = 0 ∨ Looked (recent after) name xid) :=
    ⟨firstTraced.later.trans later, looked.imp_right (·.mono later.recent)⟩
  refine meets_ite (fun _ => ?_) fun _ => ?_
  · refine meets_lookup (lookup_authIsowner user name) fun owner second secondTraced => ?_
    refine meets_ite (fun _ => ?_) fun _ => trivial
    refine meets_check (lenient_finds _) fun _ => ?_
    refine meets_sys trivial fun info => meets_check (lenient_finds _) fun _ => ?_
    exact known _ (secondTraced.later.trans (.sys _ info))
  · refine meets_lookup (lookup_authIsadmin user) fun admin second secondTraced => ?_
    exact meets_check (lenient_finds _) fun _ => known _ secondTraced.later

/-- Looking for a free id ends in a fault if the ids have to be scanned. -/
theorem meets_chooseXid (row : Row) {rest : Int × Bool → Method Int}
    {post : Past → Except Fault Int → Prop}
    (zero : ∀ past, (rest (0, false)).Meets (discipline setup request) past post)
    (scanned : ∀ past xid, (rest (xid, true)).Meets (discipline setup request) past post)
    (chosen : ∀ xid, nextXid row = some xid →
      (rest (xid, false)).Meets (discipline setup request) past post) :
    (chooseXid row >>= rest).Meets (discipline setup request) past post := by
  unfold chooseXid
  by_cases empty : vxdbColumnInt row 0 < 1
  · simp only [empty, if_true]
    exact chosen 2 (by simp [nextXid, empty])
  simp only [empty, if_false]
  by_cases next : vxdbColumnInt row 1 < 65535
  · simp only [next, if_true]
    exact chosen _ (by simp [nextXid, empty, next])
  simp only [next, if_false]
  by_cases full : vxdbColumnInt row 0 < 65535
  · simp only [full, if_true, bind_assoc]
    have scan (remaining : Nat) : ∀ xid, Lookup (scanFreeXid xid remaining) := by
      induction remaining with
      | zero => exact fun _ => trivial
      | succ remaining ih =>
          intro xid
          refine (lookup_vxdbGetname xid).bind fun known => ?_
          cases known with
          | none => trivial
          | some known => exact ih (xid + 1)
    exact meets_lookup (scan 65533 2) fun xid trace _ => scanned _ xid
  · simp only [full, if_false]
    exact zero past

theorem meets_findFreeXid {xid : Int} (target : xid = 0 ∨ Looked (recent past) name xid) :
    (findFreeXid name xid).Meets (discipline setup request) past
      (Finds fun after result => Later past after ∧ Target after name result) := by
  refine meets_ite (fun nonzero => ?_) fun zero => ?_
  · exact ⟨.refl _, .inl (target.resolve_left nonzero)⟩
  refine ⟨trivial, fun reply => ?_⟩
  have grown : Later past (⟨.prepare (render sqlCountMax), reply⟩ :: past) := .prepare _ reply
  rcases reply with _ | _ | ⟨row, rows⟩
  · trivial
  · trivial
  refine meets_chooseXid row (fun past => trivial) (fun past xid => ?_)
    fun xid next => meets_check (lenient_finds _) fun _ => ⟨grown, .inr ?_⟩
  · exact meets_check (lenient_finds _) fun _ => trivial
  · rw [recent_cons id]
    exact ⟨_, row, List.mem_cons_self, rfl, next⟩

/-! ## The file system -/

theorem silent_makeVserverFilesystem (vdir tdir : Str) (copy : Bool) :
    Silent (makeVserverFilesystem vdir tdir copy) :=
  silent_call trivial (silent_sysOrFault trivial)

/-- A creation may unlink the directory it works in and the device directory of that. -/
theorem Creating.unlinks (creating : Creating setup request past user name param vdir) :
    Permitted setup request past (.sys (.runlink vdir)) :=
  fun _ => .new creating

theorem meets_sanitizeDev (creating : Creating setup request past user name param vdir) :
    (sanitizeDev vdir).Meets (discipline setup request) past
      (Finds fun after _ => Later past after) := by
  refine meets_silent (silent_sysOrFault trivial) (lenient_finds _) fun _ after grows => ?_
  refine meets_sys (fun _ => .dev (creating.mono (.grows grows))) fun answer => ?_
  refine meets_ite (fun _ => trivial) fun _ => ?_
  have nodes : Silent (sysAll (faultf .sys [.chars (cstr "could not properly sanitize /dev")])
      (.mkdir (devPath vdir (cstr "dev")) :: .mkdir (devPath vdir (cstr "dev/pts")) ::
        devNodes.map fun node => .mknod (devPath vdir node))) := by
    have all (calls : List Sys) (quiet : ∀ call ∈ calls, Quiet (.sys call)) :
        Silent (sysAll (faultf .sys [.chars (cstr "could not properly sanitize /dev")])
          calls) := by
      induction calls with
      | nil => trivial
      | cons call calls ih =>
          refine silent_sys (quiet call List.mem_cons_self) fun answer => ?_
          exact silent_ite trivial (ih fun other mem => quiet other (List.mem_cons_of_mem _ mem))
    refine all _ fun call mem => ?_
    simp only [List.mem_cons, List.mem_map] at mem
    rcases mem with rfl | rfl | ⟨node, -, rfl⟩ <;> trivial
  refine nodes.meets.mono fun last outcome grown => ?_
  cases outcome with
  | error fault => trivial
  | ok value =>
      exact (Later.grows grows).trans ((Later.sys _ answer).trans (.grows grown))

/-- The directory is made anew and filled, and its device nodes are made. -/
theorem meets_fillRoot {xid : Int} {tdir : Str} {copy : Bool}
    (creating : Creating setup request past user name param vdir)
    (target : xid = 0 ∨ Looked (recent past) name xid) :
    (do
      let _ ← sys (.runlink vdir)
      let xid ← findFreeXid name xid
      sysOrFault (cstr "build_root_filesystem") (cstr "mkdirp") (.mkdirp vdir)
      match ← (makeVserverFilesystem vdir tdir copy).attempt with
      | .error fault =>
          let _ ← sys (.runlink vdir)
          .fail fault
      | .ok () =>
          sanitizeDev vdir
          return xid : Method Int).Meets (discipline setup request) past
      (Finds fun after result => Later past after ∧ Target after name result) := by
  refine meets_sys creating.unlinks fun answer => ?_
  have unlinked := @Later.sys past (.runlink vdir) answer
  refine meets_found (lenient_finds _)
    (meets_findFreeXid (target.imp_right (·.mono unlinked.recent))) fun after xid found => ?_
  refine meets_silent (silent_sysOrFault trivial) (lenient_finds _) fun _ made grows => ?_
  refine meets_silent (silent_makeVserverFilesystem vdir tdir copy).attempt (lenient_finds _)
    fun outcome last grown => ?_
  have subset : Later after last :=
    (Later.grows grows).trans (.grows grown)
  have whole : Later past last :=
    unlinked.trans (found.1.trans subset)
  cases outcome with
  | error fault => exact meets_sys (creating.mono whole).unlinks fun _ => trivial
  | ok value =>
      refine meets_found (lenient_finds _) (meets_sanitizeDev (creating.mono whole))
        fun final _ end_ => ?_
      exact ⟨whole.trans end_, (found.2.mono subset).mono end_⟩

theorem meets_buildRootFilesystem {xid : Int} {tdir : Str} {copy : Bool}
    (creating : Creating setup request past user name param vdir)
    (target : xid = 0 ∨ Looked (recent past) name xid) :
    (buildRootFilesystem setup.host name vdir tdir xid copy).Meets (discipline setup request)
      past (Finds fun after result => Later past after ∧ Target after name result) := by
  refine meets_ite (fun positive => ?_) fun _ => meets_fillRoot creating target
  have looked := target.resolve_left (ne_of_gt positive)
  refine meets_lookup (lookup_vxdbGetvdir setup.host name) fun oldvdir trace traced => ?_
  have subset : Later past (trace ++ past) := traced.later
  have recorded (oracle : Oracle) (agrees : Agrees oracle (recent (trace ++ past))) :
      vdirIn oracle setup.host name = oldvdir :=
    traced.determined (fun oracle => answer_vxdbGetvdir oracle setup.host name) oracle agrees
  refine meets_check (lenient_finds _) fun _ => ?_
  refine meets_sys (fun _ => .old name xid oldvdir (subset.untouched creating.untouched)
    creating.name_eq (looked.mono subset.recent) recorded) fun answer => ?_
  have whole := subset.trans (Later.sys (.runlink oldvdir) answer)
  refine (meets_fillRoot (creating.mono whole) (.inr (looked.mono whole.recent))).mono
    fun after outcome found => ?_
  cases outcome with
  | error fault => trivial
  | ok value => exact ⟨whole.trans found.1, found.2⟩

/-! ## The request -/

/-- The request executed its script, and that succeeded. -/
def Recorded (setup : Setup) (request : Request) (past : Past) : Prop :=
  ∃ xid entries outcome, request.text (cstr "name") = .ok entries.name ∧ outcome.ok = true ∧
    (⟨.exec (printed setup.host (sqlCreate xid entries)), outcome⟩ : Performed daemon) ∈ past

theorem confFault_bind {α : Type} (message text : Str) (rest : Unit → Except Fault α) :
    (confFault message text >>= rest) = .error (.ofFormat .conf
      [.chars (cstr "invalid template configuration for "), .chars message,
        .chars (cstr ": "), .str text]) := rfl

/-- A checked list of names is the list itself. -/
theorem listedNames_eq_ok {list names result : List Str} {message : Str}
    (listed : listedNames list message names = .ok result) :
    result = names ∧ ∀ name ∈ names, name ∈ list := by
  induction names generalizing result with
  | nil =>
      obtain rfl := Except.ok.inj listed
      simp
  | cons name names ih =>
      simp only [listedNames, confFault_bind, ite_error_eq_ok, bind_eq_ok, pure_eq_ok] at listed
      obtain ⟨contained, rest, restListed, rfl⟩ := listed
      obtain ⟨rfl, mem⟩ := ih restListed
      refine ⟨rfl, fun other otherMem => ?_⟩
      rcases List.mem_cons.mp otherMem with rfl | otherMem
      · simpa using contained
      · exact mem other otherMem

/-- What the script records is what the template configuration has. -/
theorem templateEntries_eq_ok {conf : TemplateConf} {vdir name : Str} {entries : Entries}
    (assembled : templateEntries conf vdir name = .ok entries) :
    (conf.mounts = [] ∧ entries.mounts = defaultMounts ∨
        conf.mounts ≠ [] ∧ conf.mounts.mapM mountEntry = .ok entries.mounts) ∧
      (∀ bcap ∈ conf.vxBcaps, bcap ∈ bcapsList) ∧ (∀ ccap ∈ conf.vxCcaps, ccap ∈ ccapsList) ∧
      (∀ flag ∈ conf.vxFlags, flag ∈ cflagsList) ∧
      entries = { init := conf.init, halt := conf.halt, reboot := conf.reboot,
                  timeout := templateTimeout conf.timeout,
                  mounts := entries.mounts, bcaps := conf.vxBcaps, ccaps := conf.vxCcaps,
                  flags := conf.vxFlags, vdir, name } := by
  have rest (mounts : Except Fault (List (Str × Str × Str × Str)))
      (assembled : (do
        let mounts ← mounts
        let bcaps ← listedNames bcapsList (cstr "bcap") conf.vxBcaps
        let ccaps ← listedNames ccapsList (cstr "ccap") conf.vxCcaps
        let flags ← listedNames cflagsList (cstr "cflag") conf.vxFlags
        return { init := conf.init, halt := conf.halt, reboot := conf.reboot,
                 timeout := templateTimeout conf.timeout,
                 mounts, bcaps, ccaps, flags, vdir, name } : Except Fault Entries) =
          .ok entries) :
      mounts = .ok entries.mounts ∧ (∀ bcap ∈ conf.vxBcaps, bcap ∈ bcapsList) ∧
        (∀ ccap ∈ conf.vxCcaps, ccap ∈ ccapsList) ∧ (∀ flag ∈ conf.vxFlags, flag ∈ cflagsList) ∧
        entries = { init := conf.init, halt := conf.halt, reboot := conf.reboot,
                    timeout := templateTimeout conf.timeout,
                    mounts := entries.mounts, bcaps := conf.vxBcaps, ccaps := conf.vxCcaps,
                    flags := conf.vxFlags, vdir, name } := by
    simp only [bind_eq_ok, pure_eq_ok] at assembled
    obtain ⟨known, mountsEq, bcaps, bcapsEq, ccaps, ccapsEq, flags, flagsEq, rfl⟩ := assembled
    obtain ⟨rfl, bcapsMem⟩ := listedNames_eq_ok bcapsEq
    obtain ⟨rfl, ccapsMem⟩ := listedNames_eq_ok ccapsEq
    obtain ⟨rfl, flagsMem⟩ := listedNames_eq_ok flagsEq
    exact ⟨mountsEq, bcapsMem, ccapsMem, flagsMem, rfl⟩
  simp only [templateEntries, confFault_bind, ite_error_eq_ok] at assembled
  obtain ⟨-, -, -, assembled⟩ := assembled
  split at assembled
  next empty =>
    obtain ⟨mounts, others⟩ := rest (pure defaultMounts) assembled
    exact ⟨.inl ⟨empty, (Except.ok.inj mounts).symm⟩, others⟩
  next listed =>
    obtain ⟨mounts, others⟩ := rest _ assembled
    exact ⟨.inr ⟨listed, mounts⟩, others⟩

theorem meets_createVxdbEntries {xid : Int} {tdir template : Str}
    (kind : writeKind request.method = some .create)
    (creating : Creating setup request past user name param vdir)
    (target : Target past name xid) :
    (createVxdbEntries setup.host setup.templates tdir template vdir name xid).Meets
      (discipline setup request) past (Finds fun after _ => Recorded setup request after) := by
  refine meets_sys trivial fun answer => ?_
  have grown := @Later.sys past (.isfile (tdir ++ cstr ".conf")) answer
  have creating := creating.mono grown
  have target := target.mono grown
  have records (conf : TemplateConf)
      (known : conf = {} ∨ ∃ path, setup.templates path = .parsed conf) :
      (do
        let entries ← ofExcept (templateEntries conf vdir name)
        let outcome ← vxdbExecFormat setup.host (render (sqlCreate xid entries))
        if !outcome.ok then
          let _ ← sys (.runlink vdir)
          vxdbFault (cstr "create_vxdb_entries") : Method Unit).Meets (discipline setup request)
        (⟨.sys (.isfile (tdir ++ cstr ".conf")), answer⟩ :: past)
        (Finds fun after _ => Recorded setup request after) := by
    refine meets_ofExcept (lenient_finds _) fun entries assembled => ?_
    refine ⟨.inr ⟨_, kind, .create user name param vdir xid conf entries creating target known
      assembled⟩, fun outcome => ?_⟩
    refine meets_ite (fun failed => ?_) fun succeeded => ?_
    · refine meets_sys (creating.mono (.failed ?_)).unlinks fun _ => trivial
      simpa using failed
    · refine ⟨xid, entries, outcome, ?_, by simpa using succeeded, List.mem_cons_self⟩
      rw [(templateEntries_eq_ok assembled).2.2.2.2]
      exact creating.name_eq
  by_cases exists? : answer.rc = 0
  · simp only [exists?, if_true]
    exact records {} (.inl rfl)
  · simp only [exists?, if_false]
    cases parsed : setup.templates (tdir ++ cstr ".conf") with
    | fileError => trivial
    | parseError => trivial
    | parsed conf => exact records conf (.inr ⟨_, parsed⟩)

theorem mVxCreate_meets (kind : writeKind request.method = some .create) :
    (mVxCreate setup.host setup.templates
      (.client request.credentials request.params)).Meets (discipline setup request) []
      (Finds fun after _ => Recorded setup request after) := by
  have lenient := lenient_finds fun after (_ : Xml) => Recorded setup request after
  refine meets_admitted setup.host capCreate { lock := true } lenient fun after user admitted => ?_
  refine meets_ofExcept lenient fun known userEq => ?_
  obtain rfl : user = known := Except.ok.inj (admitted.user_eq.symm.trans userEq)
  refine meets_ofExcept lenient fun name nameEq => ?_
  obtain ⟨known, knownEq, valid, -⟩ := admitted.checked rfl
  obtain rfl : known = name := Except.ok.inj (knownEq.symm.trans nameEq)
  refine meets_ofExcept lenient fun template _ => ?_
  refine meets_ofExcept lenient fun force _ => ?_
  refine meets_ofExcept lenient fun copy _ => ?_
  refine meets_ofExcept lenient fun param paramEq => ?_
  refine meets_check lenient fun _ => meets_check lenient fun _ => ?_
  refine meets_sys trivial fun basedir => meets_check lenient fun _ => ?_
  refine meets_sys trivial fun tdir => meets_check lenient fun _ => ?_
  refine meets_found lenient (meets_createTarget force)
    fun ready xid ⟨later, target⟩ => ?_
  refine meets_lookup (lookup_createVdir setup.host) fun vdir trace traced => ?_
  have subset : Later ready (trace ++ ready) := traced.later
  have resolved (oracle : Oracle) (agrees : Agrees oracle (recent (trace ++ ready))) :
      createVdirIn oracle setup.host user known param = vdir :=
    traced.determined (fun oracle => answer_createVdir oracle setup.host) oracle agrees
  have source : Source setup.host request (recent (trace ++ ready)) vdir := by
    rw [traced.recent]
    exact (traced_createVdir nameEq paramEq traced).mono (by simp)
  refine meets_check lenient fun checked => meets_check lenient fun short => ?_
  have creating : Creating setup request (trace ++ ready) user known param vdir :=
    { user_eq := userEq, name_eq := nameEq, param_eq := paramEq, valid,
      checked := by simpa using checked, short := by simpa using short,
      untouched := subset.untouched (later.untouched
        ((Later.sys _ basedir).trans (.sys _ tdir) |>.untouched admitted.untouched)),
      source, resolved }
  have builds (past : Past) (creating : Creating setup request past user known param vdir)
      (target : xid = 0 ∨ Looked (recent past) known xid) :
      (do
        let xid ← buildRootFilesystem setup.host known vdir
          (strPathConcat setup.host.templatedir template) xid copy
        createVxdbEntries setup.host setup.templates
          (strPathConcat setup.host.templatedir template) template vdir known xid
        return Xml.nil : Method Xml).Meets (discipline setup request) past
        (Finds fun after _ => Recorded setup request after) := by
    refine meets_found lenient (meets_buildRootFilesystem creating target)
      fun built xid found => ?_
    exact meets_found lenient (meets_createVxdbEntries kind (creating.mono found.1) found.2)
      fun last _ recorded => recorded
  refine meets_ite (fun _ => ?_) fun _ =>
    builds _ creating (target.imp_right (·.mono subset.recent))
  refine meets_sys trivial fun path => meets_check lenient fun _ => ?_
  have grown := @Later.sys (trace ++ ready) (.ispath vdir) path
  exact builds _ (creating.mono grown)
    (target.imp_right fun looked => (looked.mono subset.recent).mono grown.recent)

theorem mVxCreate_keeps (kind : writeKind request.method = some .create) :
    Keeps setup request [] (mVxCreate setup.host setup.templates
      (.client request.credentials request.params)) :=
  (mVxCreate_meets kind).mono fun _ _ _ => trivial

end Vcd
