import Mathlib.Data.List.Basic
import Mathlib.Tactic.Common
import Switchboard.Proofs.Announcements
import Switchboard.Proofs.Arguments
import Switchboard.Proofs.Filtering

/-!
# How the command ends

The reasons to end early are looked at in one order: whether the options can be followed, whether the
level can be read, whether a library is asked for, and whether it opens (`run_eq_ending`). After that
nothing can go wrong: a level that is read is always known, be it from a name or from a file
(`isKnown_inForce`), so a library that was opened takes the registration when the log is attached and
when it is disconnected (`attend_eq`). All that is shown in the end are the events that the library
itself logs when it is registered first.
-/

namespace Switchboard

namespace Config

theorem isKnown_of_readEntry {c d : Config} {e : Toml.Key × Toml.Item}
    (h : readEntry c e = .ok d) (hc : c.minLevel.isKnown = true) : d.minLevel.isKnown = true := by
  obtain ⟨key, item⟩ := e
  simp only [readEntry] at h
  split_ifs at h with hl hp
  · split at h
    · rename_i l hread
      obtain rfl := Except.ok.inj h
      exact Level.isKnown_of_ofDatum (eq_ok_of_mapError hread)
    · cases h
  · split at h
    · obtain rfl := Except.ok.inj h
      exact hc
    · cases h
  · obtain rfl := Except.ok.inj h
    exact hc

theorem isKnown_of_readEntries {t : Toml.Table} : ∀ {c d : Config}, readEntries c t = .ok d →
    c.minLevel.isKnown = true → d.minLevel.isKnown = true := by
  induction t with
  | nil =>
    intro c d h hc
    obtain rfl := Except.ok.inj h
    exact hc
  | cons e es ih =>
    intro c d h hc
    simp only [readEntries] at h
    split at h
    · rename_i c' he
      exact ih h (isKnown_of_readEntry he hc)
    · cases h

theorem isKnown_of_parse {text : String} {c : Config} (h : parse text = .ok c) :
    c.minLevel.isKnown = true := by
  unfold parse at h
  split at h
  · cases h
  · split at h
    · rename_i d hd
      obtain rfl := Except.ok.inj h
      exact isKnown_of_readEntries hd rfl
    · cases h

/-- The level of a configuration that loads is known. -/
theorem isKnown_of_load {files : FileTree} {path : Bytes} {c : Config}
    (h : (load files path).1 = .ok c) : c.minLevel.isKnown = true := by
  rcases hr : files.readText path with fault | text
  · simp only [load, hr] at h
    cases h
  · simp only [load, hr] at h
    exact isKnown_of_parse (eq_ok_of_mapError h)

end Config

namespace Command

theorem isKnown_inForce (files : FileTree) (its : List Item) :
    (inForce files its).minLevel.isKnown = true := by
  unfold inForce
  rcases hlast : (its.filterMap (Item.config? files)).getLast? with _ | c
  · rfl
  · obtain ⟨it, -, hc⟩ := List.mem_filterMap.1 (List.mem_of_getLast? hlast)
    cases it with
    | file path =>
      rcases hload : (Config.load files (Utf8.encode path)).1 with fault | d
      · simp only [Item.config?, hload] at hc
        cases hc
      · simp only [Item.config?, hload] at hc
        obtain rfl := Option.some.inj hc
        exact Config.isKnown_of_load hload
    | positional | lone => cases hc

/-! ### What is asked for -/

theorem isKnown_of_levelAsked {c : Config} {ts : List String} {l : Level}
    (h : levelAsked c ts = .ok l) (hc : c.minLevel.isKnown = true) : l.isKnown = true := by
  rcases hname : ts[1]? with _ | name
  · simp only [levelAsked, hname] at h
    obtain rfl := Except.ok.inj h
    exact hc
  · simp only [levelAsked, hname] at h
    exact Level.isKnown_of_parse h

/-- An option that cannot be followed is one without a path, or one with a file that does not load. -/
theorem eq_of_findSome?_refusal? {files : FileTree} {its : List Item} {r : Refusal}
    (h : its.findSome? (Item.refusal? files) = some r) :
    r = .missingPath ∨ ∃ fault, r = .badConfig fault := by
  obtain ⟨it, -, hr⟩ := List.exists_of_findSome?_eq_some h
  cases it with
  | file path =>
    simp only [Item.refusal?] at hr
    split at hr
    · cases hr
    · rename_i fault _
      exact .inr ⟨fault, (Option.some.inj hr).symm⟩
  | positional => cases hr
  | lone => exact .inl (Option.some.inj hr).symm

/-- How the command ends, by the first option that cannot be followed, the level that is asked for and
the library that is asked for: the reasons to end early in the order in which they are looked at. -/
def ending (files : FileTree) (failure : Option Refusal) (level : Except Fault Level)
    (library : Option Bytes) : Report :=
  match failure, level, library with
  | some r, _, _ => r.report
  | none, .error fault, _ => (Refusal.badLevel fault).report
  | none, .ok _, none => Refusal.noLibrary.report
  | none, .ok l, some path =>
    match (files.openLibrary path).1 with
    | .error fault => (Refusal.notOpened fault).report
    | .ok opened =>
      attend (World.initial.addOpened path opened handles) (opened.gateway path) l

theorem run_eq_ending (files : FileTree) (args : List String) :
    run files args = ending files ((items args).findSome? (Item.refusal? files))
      (levelAsked (inForce files (items args)) (texts (items args)))
      (libraryAsked? (inForce files (items args)) (texts (items args))) := by
  rw [run_eq, override_eq]
  rcases (items args).findSome? (Item.refusal? files) with _ | r
  · rcases levelAsked (inForce files (items args)) (texts (items args)) with fault | l
    · rfl
    · simp only [Except.bind, start]
      rcases libraryAsked? (inForce files (items args)) (texts (items args)) with _ | path
      · rfl
      · simp only [ending]
        rcases (files.openLibrary path).1 with fault | opened
        · rfl
        · rfl
  · rfl

/-! ### Attending -/

theorem eventLines_eq_map {α : Type} {w : World} {own : List Write} {ran : List Event}
    {accepted : LibraryId → Option Registration} {captured : Option Domains}
    {kept : Option (Except Fault Unit)} {o : Outcome α}
    (h : Effect w own ran accepted captured kept o) :
    eventLines o.records =
      ((ran.filterMap Event.logged?).flatMap (Call.records w.filter captured)).map eventLine := by
  rw [eventLines, h.records]

/-- No line that shows an event opens like one that shows a fault. -/
theorem not_isPrefix_eventLine (r : Record) : ¬ "Error:".toList <+: (eventLine r).toList := by
  intro h
  have hline : (eventLine r).toList.head? = some '[' := by
    simp only [eventLine, String.toList_append, List.append_assoc]
    rfl
  obtain ⟨rest, hrest⟩ := h
  rw [← hrest] at hline
  cases hline

section Attending

variable {w : World} {g : Gateway} {path : Bytes} {l : Level}

/-- An opened library refuses no known level, so the log is attached to it, disconnected at the end,
and what is shown in between are the library's own events. -/
theorem attend_eq (hg : g ∈ w.gateways) (hk : g.kind = .opened path)
    (hi : (w.library g).image.objection? = none) (hl : l.isKnown = true) :
    let route : Route := ⟨g, .shared⟩
    let attached := w.attachLog route l
    let ds := w.captured.getD (w.askDomains g).answer
    attached.answer = .ok () ∧ (attached.world.disconnect route .off).answer = .ok () ∧
      attend w g l =
        ⟨0, "Relaying LiteCore logs at " ++ l.display ++ " and above; press Enter to stop\n",
          (((w.library g).chatter l).flatMap (Call.records w.filter (some ds))).map eventLine⟩ := by
  intro route attached ds
  have hattach := World.effect_attachLog w (r := route) hg l
  have ho : w.objection? ⟨route, l, some .logger⟩ = none := by
    simp only [World.objection?, route, hk, GatewayKind.objection?, hl, hi]
    rfl
  have ha : attached.answer = .ok () :=
    (World.attachLog_answer w route l).trans (World.verdict_eq_ok_iff.2 ho)
  have ho' : attached.world.objection? ⟨route, .off, none⟩ = none := by
    have himage : (attached.world.library g).image.objection? = none := by
      rw [show (attached.world.library g).image = _ from hattach.image g.library]
      exact hi
    simp only [World.objection?, route, hk, GatewayKind.objection?, himage]
    rfl
  have hd : (attached.world.disconnect route .off).answer = .ok () :=
    (World.connect_answer attached.world ⟨route, .off, none⟩).trans
      (World.verdict_eq_ok_iff.2 ho')
  have hran : w.ranConnecting ⟨route, l, some .logger⟩ =
      ((w.library g).chatter l).map (⟨.logger, ·⟩) :=
    (World.ranConnecting_of_no_objection ho).trans
      (Delivery.ranAll_of_isLocal (Slots.get_put_self _ _ _) rfl _)
  -- The library logs once more when it is disconnected, but its slot is empty by then.
  have hquiet : attached.world.ranConnecting ⟨route, .off, none⟩ = [] :=
    (World.ranConnecting_of_no_objection ho').trans
      (Delivery.ranAll_of_empty (Slots.get_put_self _ _ _) _)
  have hattached := eventLines_eq_map hattach
  have hdetached := eventLines_eq_map (World.effect_connect attached.world ⟨route, .off, none⟩)
  rw [hran, Event.filterMap_logged?_map_logger] at hattached
  rw [hquiet] at hdetached
  refine ⟨ha, hd, ?_⟩
  have hattend : attend w g l =
      ⟨0, "Relaying LiteCore logs at " ++ l.display ++ " and above; press Enter to stop\n",
        eventLines attached.records ++
          eventLines (attached.world.disconnect route .off).records⟩ := by
    simp only [attend, ha, hd, attached, route, List.append_nil]
  rw [hattend, hattached, show eventLines (attached.world.disconnect route .off).records = _ from
    hdetached]
  exact congrArg _ (List.append_nil _)

end Attending

/-! ### The library's own events -/

/-- The lines that show the events of a talkative library, one for each known level. Its domains are
not told apart if it cannot be asked for them. -/
def allAnnouncements (namesDomains : Bool) : List String :=
  let tag (d : Domain) : String := if namesDomains then d.tag else unknownTag
  ["[TRACE litecore] " ++ tag .general ++ " stub says %d",
    "[DEBUG litecore] " ++ tag .database ++ " stub says %d",
    "[INFO  litecore] " ++ tag .query ++ " stub says %d",
    "[WARN  litecore] " ++ tag .sync ++ " stub says %d",
    "[ERROR litecore] " ++ tag .websocket ++ " stub says %d",
    "[ERROR litecore] " ++ tag .general ++ " <null>"]

/-- What is shown of a library that is registered at a level. -/
def announcements (image : Image) (level : Level) : List String :=
  if image.talkative then (allAnnouncements image.namesDomains).drop level.depth else []

theorem map_eventLine_chatter_debug (image : Image) (ht : image.talkative = true) :
    ((Library.fresh image handles none).chatter .debug).map
        (eventLine ∘ Call.toRecord (some (if image.namesDomains then handles else .unresolved))) =
      allAnnouncements image.namesDomains := by
  obtain ⟨registers, namesDomains, talkative⟩ := image
  obtain rfl : talkative = true := ht
  cases registers <;> cases namesDomains <;> rfl

theorem map_eventLine_chatter (image : Image) {l : Level} (hl : l.isKnown = true) :
    let ds := if image.namesDomains then handles else .unresolved
    (((Library.fresh image handles none).chatter l).flatMap
      (Call.records .everything (some ds))).map eventLine = announcements image l := by
  intro ds
  rcases ht : image.talkative with _ | _
  · rw [Library.chatter_of_not_talkative ht, announcements, ht]
    rfl
  · have hrecords : Call.records .everything (some ds) = fun c => [c.toRecord (some ds)] :=
      funext (Call.records_everything (some ds))
    rw [Library.chatter_eq_drop ht hl, hrecords, ← List.map_eq_flatMap, List.map_map, List.map_drop,
      map_eventLine_chatter_debug image ht, announcements, if_pos ht]

/-- What is done with a library that was opened: the log is attached to it, and nothing fails. -/
theorem attend_addOpened {files : FileTree} {path : Bytes} {opened : OpenedLibrary} {l : Level}
    (ho : (files.openLibrary path).1 = .ok opened) (hl : l.isKnown = true) :
    let w := World.initial.addOpened path opened handles
    let route : Route := ⟨opened.gateway path, .shared⟩
    let attached := w.attachLog route l
    attached.answer = .ok () ∧ (attached.world.disconnect route .off).answer = .ok () ∧
      attend w (opened.gateway path) l =
        ⟨0, "Relaying LiteCore logs at " ++ l.display ++ " and above; press Enter to stop\n",
          announcements opened.image l⟩ := by
  intro w route attached
  have hlib : w.library route.gateway = .fresh opened.image handles none :=
    World.setLibrary_libraries_self World.initial (opened.gateway path).library _
  have hi : (w.library route.gateway).image.objection? = none := by
    rw [hlib]
    exact (FileTree.loadLibrary?_of_openLibrary (Prod.ext ho rfl)).2
  have hds : (w.askDomains route.gateway).answer =
      if opened.image.namesDomains then handles else .unresolved := by
    show (GatewayKind.askDomains (.opened path) (w.library route.gateway)).1 = _
    rcases hn : opened.image.namesDomains with _ | _
    · simp only [GatewayKind.askDomains, hlib, Library.fresh, hn]
      rfl
    · simp only [GatewayKind.askDomains, hlib, Library.fresh, hn]
      rfl
  obtain ⟨ha, hd, hattend⟩ := attend_eq (w := w) List.mem_cons_self rfl hi hl
  refine ⟨ha, hd, ?_⟩
  rw [hattend, show w.captured.getD _ = _ from hds, hlib]
  exact congrArg _ (map_eventLine_chatter opened.image hl)

/-! ### How a run ends -/

/-- The command ends with code one if and only if a file that does not load is the first option that
cannot be followed, or all can be followed, the level can be read, and the library does not open. It
ends with code two if and only if an option without a path is reached, or all can be followed, and the
level cannot be read or no library is asked for. Otherwise it ends with code zero. A file that does
not load is reported before a level that cannot be read, wherever they stand. The level is known
whenever there is one, so once the library is opened nothing fails any more: what is shown is the
level by its name, and, with no fault, the library's own events. -/
theorem run_ends (files : FileTree) (args : List String) :
    let its := items args
    let failure := its.findSome? (Item.refusal? files)
    let level := levelAsked (inForce files its) (texts its)
    let library := libraryAsked? (inForce files its) (texts its)
    let report := run files args
    (report.code = 1 ↔ (∃ fault, failure = some (.badConfig fault)) ∨
        failure = none ∧ (∃ l, level = .ok l) ∧
          ∃ path fault, library = some path ∧ (files.openLibrary path).1 = .error fault) ∧
      (report.code = 2 ↔ failure = some .missingPath ∨
        failure = none ∧ ((∃ fault, level = .error fault) ∨ library = none)) ∧
      (report.code = 0 ↔ failure = none ∧ ∃ l path opened, level = .ok l ∧ library = some path ∧
        (files.openLibrary path).1 = .ok opened) ∧
      (report.code = 0 ∨ report.code = 1 ∨ report.code = 2) ∧
      (∀ fault, failure = some (.badConfig fault) → report = ⟨1, "", faultLines fault⟩) ∧
      ∀ l, level = .ok l → l.isKnown = true ∧
        ∀ path opened, library = some path → (files.openLibrary path).1 = .ok opened →
          let route : Route := ⟨opened.gateway path, .shared⟩
          let attached := (World.initial.addOpened path opened handles).attachLog route l
          attached.answer = .ok () ∧ (attached.world.disconnect route .off).answer = .ok () ∧
            (failure = none → ∃ name, l.name? = some name ∧
              report = ⟨0, "Relaying LiteCore logs at " ++ name ++
                " and above; press Enter to stop\n", announcements opened.image l⟩) ∧
            ∀ line ∈ announcements opened.image l, ¬ "Error:".toList <+: line.toList := by
  intro its failure level library report
  have hknown : ∀ l, level = .ok l → l.isKnown = true :=
    fun l h => isKnown_of_levelAsked h (isKnown_inForce files its)
  have hfailure : ∀ r, failure = some r → r = .missingPath ∨ ∃ fault, r = .badConfig fault :=
    fun r => eq_of_findSome?_refusal?
  have hreport : report = ending files failure level library := run_eq_ending files args
  clear_value report failure level library
  refine ⟨?one, ?two, ?zero, ?all, ?file,
    fun l hl => ⟨hknown l hl, fun path opened hp ho => ?opened⟩⟩
  case opened =>
    obtain ⟨ha, hd, hattend⟩ := attend_addOpened ho (hknown l hl)
    obtain ⟨name, hname, hdisplay⟩ := Level.name?_of_isKnown (hknown l hl)
    refine ⟨ha, hd, fun hf => ⟨name, hname, ?_⟩, fun line hline => ?_⟩
    · simp only [hreport, hf, hl, hp, ending, ho, hattend, hdisplay]
    · rw [← map_eventLine_chatter opened.image (hknown l hl)] at hline
      obtain ⟨r, -, rfl⟩ := List.mem_map.1 hline
      exact not_isPrefix_eventLine r
  -- The code is that of one row of `ending`, and no other row has its premises.
  all_goals
    rcases failure with _ | r
    · rcases level with fault | l
      · simp [hreport, ending, Refusal.report, Refusal.code]
      · rcases library with _ | path
        · simp [hreport, ending, Refusal.report, Refusal.code]
        · rcases ho : (files.openLibrary path).1 with fault | opened
          · simp [hreport, ending, ho, Refusal.report, Refusal.code]
          · obtain ⟨-, -, hattend⟩ := attend_addOpened ho (hknown l rfl)
            simp [hreport, ending, ho, hattend]
    · rcases hfailure r rfl with rfl | ⟨fault, rfl⟩
      · simp [hreport, ending, Refusal.report, Refusal.code]
      · simp [hreport, ending, Refusal.report, Refusal.code, Refusal.lines]

/-- A file that is not there is reported, though the level before it cannot be read either. A library
that is opened at warning level logs three events. -/
theorem run_ends_at_warning :
    let late := ["./chatty.so", "loud", "--config", "none.toml"]
    let args := ["./chatty.so", " Warn"]
    let its := items args
    let fault : Fault := .io "No such file or directory (os error 2)"
    (items late).findSome? (Item.refusal? .stock) = some (.badConfig fault) ∧
      run .stock late = ⟨1, "", ["Error: IO error: No such file or directory (os error 2)"]⟩ ∧
      its.findSome? (Item.refusal? .stock) = none ∧
      levelAsked (inForce .stock its) (texts its) = .ok .warning ∧
      libraryAsked? (inForce .stock its) (texts its) = some (Utf8.encode "./chatty.so") ∧
      (FileTree.stock.openLibrary (Utf8.encode "./chatty.so")).1 =
        .ok ⟨[Utf8.encode "work", Utf8.encode "chatty.so"], .chatty⟩ ∧
      run .stock args =
        ⟨0, "Relaying LiteCore logs at warning and above; press Enter to stop\n",
          ["[WARN  litecore] sync stub says %d", "[ERROR litecore] websock stub says %d",
            "[ERROR litecore] def <null>"]⟩ := by
  intro late args its fault
  have hfailure : (items late).findSome? (Item.refusal? .stock) =
      some (.badConfig fault) := by rfl
  have hnone : its.findSome? (Item.refusal? .stock) = none := by rfl
  have hlevel : levelAsked (inForce .stock its) (texts its) = .ok .warning := by rfl
  have hlibrary : libraryAsked? (inForce .stock its) (texts its) =
      some (Utf8.encode "./chatty.so") := by rfl
  have hopen : (FileTree.stock.openLibrary (Utf8.encode "./chatty.so")).1 =
      .ok ⟨[Utf8.encode "work", Utf8.encode "chatty.so"], .chatty⟩ := by rfl
  have hlines : faultLines fault =
      ["Error: IO error: No such file or directory (os error 2)"] := by decide +kernel
  obtain ⟨-, -, -, -, hfile, -⟩ := run_ends .stock late
  obtain ⟨-, -, -, -, -, hends⟩ := run_ends .stock args
  obtain ⟨-, -, hreport, -⟩ := (hends _ hlevel).2 _ _ hlibrary hopen
  obtain ⟨name, hname, hreport⟩ := hreport hnone
  obtain rfl : "warning" = name := Option.some.inj hname
  refine ⟨hfailure, hlines ▸ hfile _ hfailure, hnone, hlevel, hlibrary, hopen, ?_⟩
  rw [hreport]
  rfl

end Command

end Switchboard
