/-
# Migrations of the database

`infra/postgres/migrate.sh` with `schema_migrations` and `schema_versions`, and
`assert_schema_version` of `db/mod.rs`, without which the gateway does not start.

A session of the script goes through the files of a directory in the order of their names.  A file
whose version is noted must be the one that was applied; any other runs, with its two rows, in one
transaction.  A session ends at the first statement that fails, and may be cut off anywhere; what is
not committed then is lost.  Sessions wait for each other on an advisory lock, so a deployment is a
list of sessions, each with the directory it was shipped with.

Whatever was shipped and wherever sessions ended, the database is a journal of files
(`tracks_deploy`).  Where a release only adds files to the one before it, a beginning of the files
has been run, each script once, and a session of a release completes it; it reports success exactly
if no later release has got further (`migrations_once`).  A gateway starts on a database exactly if
what it requires has been run, once each (`gateway_starts_iff`).
-/

import Mathlib.Data.List.Perm.Basic
import SentinelMesh.Lib.Journal
import SentinelMesh.Lib.KeyedSort
import SentinelMesh.Lib.Run

namespace SentinelMesh
namespace Deploy

open Lib

variable {Script State : Type}

/-- What the host adds: `sha256sum`, and what a script does to a database, if it does not fail. -/
structure Host (Script State : Type) where
  sha256sum : Script → String
  exec : Script → State → Option State

/-- A file of the directory. -/
structure File (Script : Type) where
  filename : String
  script : Script

/-- The value of a numeral in an SQL statement, as an `INTEGER`. -/
def numeral (cs : List Char) : Option ℕ :=
  let n := cs.foldl (fun n c => 10 * n + (c.toNat - '0'.toNat)) 0
  if cs ≠ [] ∧ cs.all Char.isDigit = true ∧ n < 2147483648 then some n else none

/-- `${filename%%_*}`, as a number. -/
def File.version (f : File Script) : Option ℕ :=
  numeral (f.filename.toList.takeWhile fun c => c ≠ '_')

/-- A row of `schema_migrations`. -/
@[ext]
structure Row where
  version : ℕ
  name : String
  checksum : String
  deriving DecidableEq

/-- The database: the two tables of versions, and the rest. -/
structure Db (State : Type) where
  schema_migrations : List Row
  schema_versions : List ℕ
  rest : State

/-- The row of a file. -/
def Host.row (host : Host Script State) (f : File Script) : Option Row :=
  f.version.map fun v =>
    { version := v
      name := f.filename
      checksum := host.sha256sum f.script }

/-- What a session does with a file; `none` where a statement fails. -/
def migrateFile (host : Host Script State) (f : File Script) (db : Db State) : Option (Db State) :=
  match host.row f with
  | none => none
  | some new => match db.schema_migrations.find? fun row => row.version = new.version with
    | some row =>
      if row.checksum ≠ new.checksum then none
      else if row.name ≠ new.name then none
      else some db
    | none => match host.exec f.script db.rest with
      | none => none
      | some rest =>
        -- the unique name, and the primary key of `schema_versions`
        if db.schema_migrations.any fun row => row.name = new.name then none
        else if new.version ∈ db.schema_versions then none
        else
          some
            { schema_migrations := db.schema_migrations ++ [new]
              schema_versions := db.schema_versions ++ [new.version]
              rest }

/-- A session, and whether all statements succeeded. -/
def session (host : Host Script State) : List (File Script) → Db State → Db State × Bool
  | [], db => (db, true)
  | f :: fs, db => match migrateFile host f db with
    | none => (db, false)
    | some db' => session host fs db'

/-- `migrate.sh`: the database afterwards, and whether it says that the migrations are current. -/
def migrate (host : Host Script State) (dir : List (File Script)) (db : Db State) :
    Db State × Bool :=
  let (db', ok) := session host dir db
  (db', ok && decide (db'.schema_migrations.length = dir.length))

/-- Sessions one after the other; one that is cut off has come through a beginning of its
directory. -/
def deploy (host : Host Script State) (dirs : List (List (File Script))) (db : Db State) :
    Db State :=
  run (fun db dir => (session host dir db).1) db dirs

/-- The clean baseline. -/
def baseline (rest : State) : Db State where
  schema_migrations := []
  schema_versions := [2]
  rest := rest

/-- What the gateway requires of `schema_migrations`. -/
def requiredMigrations : List Row :=
  [⟨3, "003_protect_migration_history.sql",
      "d7c41d110fdbb68f38586a2f57804c4567444946be29c988eba1c467cacfdce9"⟩,
    ⟨4, "004_simplify_runtime_schema.sql",
      "e7e3b94079424215c60b88675e045eeebaf3bd1b4d21256b926858945270c1a0"⟩,
    ⟨5, "005_add_nip05_identity.sql",
      "77fe3e26e02b444dc5c673af5453f67affe7bd2106d7235778a50f7c1fca1c91"⟩,
    ⟨6, "006_add_nip44_circle_key_wrap.sql",
      "98085254ae48e12db57e13459ec2a6a425f29f919568475f0597a8a2186b93cb"⟩,
    ⟨7, "007_add_targeted_push_outbox.sql",
      "a660ca8d78efa63631b2167e02c72d8123f19684c095c56ec45f2cedcf69adc9"⟩,
    ⟨8, "008_grant_push_outbox_runtime.sql",
      "44bfdd61fafcb1a979853dfed2d2253fa31674b25bac851b2e0def35353bb7ab"⟩,
    ⟨9, "009_safe_circle_location_envelopes.sql",
      "6eec445a8da9828c3367263140cf296191733428d17c493fdb8c2e34bf2ac6ea"⟩,
    ⟨10, "010_circle_membership_lifecycle.sql",
      "4f33076c65c4c8a9af8c52a461a3364c730ba3856288418c481fc3958575398f"⟩,
    ⟨11, "011_add_chat_notifications.sql",
      "645889bfa78545ff70bd47a7de7af694329a4a6323da282712f6d186eb5c2598"⟩]

/-- `ORDER BY version`. -/
def byVersion (rows : List Row) : List Row := rows.mergeSort fun a b => a.version ≤ b.version

/-- `assert_schema_version`. -/
def assertSchemaVersion (db : Db State) : Bool :=
  decide (db.schema_versions.mergeSort (· ≤ ·) = [2, 3, 4, 5, 6, 7, 8, 9, 10, 11]) &&
  decide ((byVersion db.schema_migrations).map Row.version = [3, 4, 5, 6, 7, 8, 9, 10, 11]) &&
  decide ((byVersion db.schema_migrations).map Row.name = requiredMigrations.map Row.name) &&
  decide ((byVersion db.schema_migrations).map Row.checksum = requiredMigrations.map Row.checksum)

/-! ### The journal behind the tables -/

/-- A file can be applied where it has a version that is not the baseline's. -/
def Host.apply (host : Host Script State) (f : File Script) (s : State) : Option State :=
  if f.version = none ∨ f.version = some 2 then none else host.exec f.script s

variable {host : Host Script State} {rest₀ : State} {f : File Script} {files : List (File Script)}
  {db db' : Db State} {j j' : Journal (File Script) State}

/-- The tables are those of a journal. -/
structure Tracks (host : Host Script State) (db : Db State) (j : Journal (File Script) State) :
    Prop where
  rows : j.entries.map host.row = db.schema_migrations.map some
  versions : db.schema_versions = 2 :: db.schema_migrations.map Row.version
  nodup : db.schema_versions.Nodup
  rest : db.rest = j.state

theorem tracks_baseline : Tracks host (baseline rest₀) ⟨[], rest₀⟩ :=
  ⟨rfl, rfl, List.nodup_singleton 2, rfl⟩

theorem row_name {row : Row} (h : host.row f = some row) :
    row.name = f.filename ∧ f.version = some row.version := by
  obtain ⟨v, hv, rfl⟩ := Option.map_eq_some_iff.1 h
  exact ⟨rfl, hv⟩

theorem version_row (f : File Script) : (host.row f).map Row.version = f.version := by
  unfold Host.row
  cases f.version with
  | none => rfl
  | some v => rfl

namespace Tracks

theorem mark_mem (h : Tracks host db j) {row : Row} :
    some row ∈ j.entries.map host.row ↔ row ∈ db.schema_migrations := by
  rw [h.rows, List.mem_map_of_injective (Option.some_injective Row)]

theorem key_mem (h : Tracks host db j) {v : ℕ} :
    (some v ∈ j.entries.map fun e => (host.row e).map Row.version) ↔
      ∃ row ∈ db.schema_migrations, row.version = v := by
  rw [← Function.comp_def (Option.map Row.version), ← List.map_map, h.rows]
  simp

/-- Files of one name have one version. -/
theorem version_of_name (h : Tracks host db j) {new row : Row} (hnew : host.row f = some new)
    (hrow : row ∈ db.schema_migrations) (hname : row.name = new.name) :
    row.version = new.version := by
  obtain ⟨g, -, hg⟩ := List.mem_map.1 (h.mark_mem.2 hrow)
  have hfile : g.version = f.version := by
    unfold File.version
    rw [← (row_name hg).1, ← (row_name hnew).1, hname]
  rw [(row_name hg).2, (row_name hnew).2] at hfile
  exact Option.some.inj hfile

/-- One row has a version. -/
theorem row_ext (h : Tracks host db j) {a b : Row} (ha : a ∈ db.schema_migrations)
    (hb : b ∈ db.schema_migrations) (hv : a.version = b.version) : a = b := by
  have hnodup := h.nodup
  rw [h.versions, List.nodup_cons] at hnodup
  exact List.inj_on_of_nodup_map hnodup.2 ha hb hv

/-- **What a session does with a file is what a pass does with it.** -/
theorem migrateFile (h : Tracks host db j) (f : File Script) :
    Option.Rel (Tracks host) (migrateFile host f db)
      (j.visit host.row (Option.map Row.version) host.apply f) := by
  unfold Deploy.migrateFile Journal.visit
  cases hf : host.row f with
  | none =>
      have hversion : f.version = none := Option.map_eq_none_iff.1 hf
      rw [if_neg (by rw [h.rows]; simp), if_neg, Journal.note, Host.apply, if_pos (.inl hversion)]
      · exact .none
      · rw [← Function.comp_def (Option.map Row.version), ← List.map_map, h.rows]
        simp
  | some new =>
      dsimp only [Option.map_some]
      simp only [h.mark_mem, h.key_mem]
      cases hfind : db.schema_migrations.find? fun row => row.version = new.version with
      | some row =>
          have hrow := List.mem_of_find?_eq_some hfind
          have hversion : row.version = new.version := by simpa using List.find?_some hfind
          by_cases heq : row = new
          · rw [heq] at hrow
            rw [heq, if_pos hrow]
            simp only [ne_eq, not_true_eq_false, if_false]
            exact .some h
          · rw [if_neg fun hnew => heq (h.row_ext hrow hnew hversion), if_pos ⟨row, hrow, hversion⟩]
            dsimp only
            split_ifs with hchecksum hname
            · exact .none
            · exact .none
            · refine absurd (Row.ext hversion ?_ ?_) heq
              · exact not_not.1 hname
              · exact not_not.1 hchecksum
      | none =>
          have hfresh : ¬∃ row ∈ db.schema_migrations, row.version = new.version := by
            rintro ⟨row, hrow, hversion⟩
            have := List.find?_eq_none.1 hfind row hrow
            simp [hversion] at this
          rw [if_neg fun hnew => hfresh ⟨new, hnew, rfl⟩, if_neg hfresh, Journal.note, Host.apply,
            ← h.rest, (row_name hf).2]
          have hname : (db.schema_migrations.any fun row => row.name = new.name) = false := by
            simp only [List.any_eq_false, decide_eq_true_eq]
            exact fun row hrow hname => hfresh ⟨row, hrow, h.version_of_name hf hrow hname⟩
          have hbase : new.version ∈ db.schema_versions ↔ new.version = 2 := by
            rw [h.versions, List.mem_cons, List.mem_map]
            exact or_iff_left fun hmem => hfresh hmem
          dsimp only
          rw [hname]
          by_cases htwo : new.version = 2
          · rw [if_pos (.inr (by rw [htwo]))]
            cases host.exec f.script db.rest with
            | none => exact .none
            | some rest =>
                dsimp only
                rw [if_neg Bool.false_ne_true, if_pos (hbase.2 htwo)]
                exact .none
          · rw [if_neg (by simp [htwo])]
            cases host.exec f.script db.rest with
            | none => exact .none
            | some rest =>
                dsimp only
                rw [if_neg Bool.false_ne_true, if_neg (mt hbase.1 htwo)]
                refine .some ⟨?_, ?_, ?_, rfl⟩
                · dsimp only
                  rw [List.map_append, List.map_append, h.rows, List.map_singleton, hf,
                    List.map_singleton]
                · dsimp only
                  rw [h.versions, List.map_append, List.map_singleton, List.cons_append]
                · dsimp only
                  rw [← List.concat_eq_append]
                  exact h.nodup.concat (mt hbase.1 htwo)

/-- **A session is a pass.** -/
theorem session (h : Tracks host db j) (files : List (File Script)) :
    Tracks host (session host files db).1
        (j.pass host.row (Option.map Row.version) host.apply files).1 ∧
      (Deploy.session host files db).2 =
        (j.pass host.row (Option.map Row.version) host.apply files).2 := by
  induction files generalizing db j with
  | nil => exact ⟨h, rfl⟩
  | cons f files ih =>
      rw [Deploy.session, Journal.pass]
      have hstep := h.migrateFile f
      cases hdb : Deploy.migrateFile host f db with
      | none =>
          rw [hdb] at hstep
          cases hj : j.visit host.row (Option.map Row.version) host.apply f with
          | none => exact ⟨h, rfl⟩
          | some j' => rw [hj] at hstep; cases hstep
      | some db' =>
          rw [hdb] at hstep
          cases hj : j.visit host.row (Option.map Row.version) host.apply f with
          | none => rw [hj] at hstep; cases hstep
          | some j' =>
              rw [hj] at hstep
              cases hstep with
              | some hnext => exact ih hnext

end Tracks

/-! ### Deployments -/

/-- The scripts of the files, one after the other. -/
def runScripts (host : Host Script State) (files : List (File Script)) (rest : State) :
    Option State :=
  files.foldlM (fun s f => host.exec f.script s) rest

/-- **The database holds what the files lead to**, each of them noted once. -/
structure Migrated (host : Host Script State) (rest₀ : State) (files : List (File Script))
    (db : Db State) : Prop where
  rows : files.map host.row = db.schema_migrations.map some
  versions : db.schema_versions = 2 :: db.schema_migrations.map Row.version
  nodup : db.schema_versions.Nodup
  rest : runScripts host files rest₀ = some db.rest

/-- The files have versions that are not the baseline's, and their scripts succeed. -/
def Succeeds (host : Host Script State) (files : List (File Script)) (rest₀ : State) : Prop :=
  (∀ f ∈ files, f.version ≠ none ∧ f.version ≠ some 2) ∧ (runScripts host files rest₀).isSome

/-- Files with versions that are not the baseline's are applied by their scripts. -/
theorem replay_apply (hfiles : ∀ f ∈ files, f.version ≠ none ∧ f.version ≠ some 2) (s : State) :
    Journal.replay host.apply files s = runScripts host files s := by
  induction files generalizing s with
  | nil => rfl
  | cons f files ih =>
      rw [List.forall_mem_cons] at hfiles
      have happly : host.apply f s = host.exec f.script s :=
        if_neg (not_or.2 hfiles.1)
      unfold Journal.replay runScripts
      rw [List.foldlM_cons, List.foldlM_cons, happly]
      congr 1
      funext s'
      exact ih hfiles.2 s'

/-- A journal that is sound, behind the tables. -/
theorem Tracks.migrated (h : Tracks host db j)
    (hj : Journal.Sound host.row (Option.map Row.version) host.apply rest₀ j) :
    Migrated host rest₀ j.entries db := by
  refine ⟨h.rows, h.versions, h.nodup, ?_⟩
  rw [h.rest, ← hj.replay]
  refine (replay_apply (fun f hf => ?_) rest₀).symm
  obtain ⟨row, hrow, hmark⟩ : ∃ row ∈ db.schema_migrations, some row = host.row f := by
    rw [← List.mem_map, ← h.rows]
    exact List.mem_map_of_mem hf
  rw [(row_name hmark.symm).2]
  refine ⟨Option.some_ne_none _, fun htwo => ?_⟩
  have hnodup := h.nodup
  rw [h.versions, List.nodup_cons] at hnodup
  exact hnodup.1 (List.mem_map.2 ⟨row, hrow, Option.some.inj htwo⟩)

/-- **Whatever is shipped, the database is a journal of files.** -/
theorem tracks_deploy (host : Host Script State) (dirs : List (List (File Script)))
    (rest₀ : State) :
    ∃ j, Tracks host (deploy host dirs (baseline rest₀)) j ∧
      Journal.Sound host.row (Option.map Row.version) host.apply rest₀ j := by
  refine run_induction (P := fun db => ∃ j, Tracks host db j ∧
    Journal.Sound host.row (Option.map Row.version) host.apply rest₀ j)
    ⟨⟨[], rest₀⟩, tracks_baseline, rfl, List.nodup_nil⟩ (fun db dir => ?_) dirs
  rintro ⟨j, hdb, hj⟩
  exact ⟨_, (hdb.session dir).1, Journal.sound_pass dir hj⟩

/-- Where releases are beginnings of one list, so is what has been applied. -/
theorem tracks_releases (host : Host Script State) (hfiles : (files.map File.version).Nodup) (rest₀ : State)
    (releases : List ℕ) :
    ∃ j, Tracks host (deploy host (releases.map files.take) (baseline rest₀)) j ∧
      Journal.Sound host.row (Option.map Row.version) host.apply rest₀ j ∧
      j.entries <+: files := by
  unfold deploy
  induction releases using List.reverseRecOn with
  | nil => exact ⟨⟨[], rest₀⟩, tracks_baseline, ⟨rfl, List.nodup_nil⟩, List.nil_prefix⟩
  | append_singleton releases n ih =>
      obtain ⟨j, hdb, hj, hpre⟩ := ih
      rw [List.map_append, List.map_singleton, run_concat]
      refine ⟨_, (hdb.session _).1, Journal.sound_pass _ hj, ?_⟩
      refine Journal.prefix_pass ?_ hpre n
      simpa only [version_row] using hfiles

/-- A session of a release that is not cut off completes what it ships. -/
theorem session_release (hdb : Tracks host db j)
    (hj : Journal.Sound host.row (Option.map Row.version) host.apply rest₀ j)
    (hpre : j.entries <+: files) (hfiles : (files.map File.version).Nodup) {n : ℕ}
    (hsucceeds : Succeeds host (files.take n) rest₀) :
    ∃ j', Tracks host (session host (files.take n) db).1 j' ∧
      Journal.Sound host.row (Option.map Row.version) host.apply rest₀ j' ∧
      j'.entries = files.take (max j.entries.length n) ∧
      (session host (files.take n) db).2 = true := by
  obtain ⟨hsession, hok⟩ := hdb.session (files.take n)
  refine ⟨_, hsession, Journal.sound_pass _ hj, ?_⟩
  rw [hok]
  have hentries : j.entries = files.take j.entries.length := List.prefix_iff_eq_take.1 hpre
  rcases Nat.lt_or_ge n j.entries.length with hlt | hge
  · -- a later release has got further: all is noted
    have hmem : ∀ f ∈ files.take n, host.row f ∈ j.entries.map host.row := by
      intro f hf
      rw [hentries]
      exact List.mem_map_of_mem ((List.take_subset_take_left files hlt.le) hf)
    rw [Journal.pass_of_mem hmem, max_eq_left hlt.le]
    exact ⟨hentries, rfl⟩
  · obtain ⟨s, hs⟩ := Option.isSome_iff_exists.1 hsucceeds.2
    have hkeys : ((files.take n).map fun f => (host.row f).map Row.version).Nodup := by
      simp only [version_row]
      exact hfiles.sublist ((List.take_sublist n files).map File.version)
    have hbegin : j.entries <+: files.take n := by
      rw [hentries]
      exact List.take_prefix_take_left hge
    have hreplay : Journal.replay host.apply (files.take n) rest₀ = some s :=
      (replay_apply hsucceeds.1 rest₀).trans hs
    rw [Journal.pass_eq hkeys hj hbegin hreplay, max_eq_right hge]
    exact ⟨rfl, rfl⟩

/-- **Every script runs once.**  Let releases ship more and more of a list of files, and sessions of
any of them run in any order, each cut off anywhere.  Then a beginning of the list has been run, each
script once and in order; and a session of a release that is not cut off completes what it ships, if
the scripts succeed, and says that the migrations are current exactly if no later release has got
further. -/
theorem migrations_once (host : Host Script State) {files : List (File Script)}
    (hfiles : (files.map File.version).Nodup) (rest₀ : State) (releases : List ℕ) :
    ∃ k ≤ files.length,
      Migrated host rest₀ (files.take k)
        (deploy host (releases.map files.take) (baseline rest₀)) ∧
      ∀ n ≤ files.length, Succeeds host (files.take n) rest₀ →
        ∃ db', migrate host (files.take n)
            (deploy host (releases.map files.take) (baseline rest₀)) = (db', decide (k ≤ n)) ∧
          Migrated host rest₀ (files.take (max k n)) db' := by
  obtain ⟨j, hdb, hj, hpre⟩ := tracks_releases host hfiles rest₀ releases
  have hentries : j.entries = files.take j.entries.length := List.prefix_iff_eq_take.1 hpre
  refine ⟨j.entries.length, hpre.length_le, ?_, fun n hn hsucceeds => ?_⟩
  · rw [← hentries]
    exact hdb.migrated hj
  · obtain ⟨j', hdb', hj', hentries', hok⟩ := session_release hdb hj hpre hfiles hsucceeds
    refine ⟨_, ?_, hentries' ▸ hdb'.migrated hj'⟩
    have hcount : (session host (files.take n)
        (deploy host (releases.map files.take) (baseline rest₀))).1.schema_migrations.length =
          max j.entries.length n := by
      rw [← List.length_map (f := some), ← hdb'.rows, List.length_map, hentries',
        List.length_take_of_le (max_le hpre.length_le hn)]
    unfold migrate
    dsimp only
    rw [hok, hcount, List.length_take_of_le hn, Bool.true_and]
    exact congrArg (Prod.mk _) (decide_eq_decide.2 (by omega))

/-- Two releases of two files, the second run between two sessions of the first. -/
theorem migrations_once_rollback :
    ∃ k db', migrate ⟨id, fun script s => some (s ++ script)⟩
        ([File.mk "003_a.sql" "a", File.mk "004_b.sql" "b"].take 2)
        (deploy ⟨id, fun script s => some (s ++ script)⟩
          ([1, 2, 1].map [File.mk "003_a.sql" "a", File.mk "004_b.sql" "b"].take) (baseline "")) =
      (db', decide (k ≤ 2)) := by
  have hfiles : ([File.mk "003_a.sql" "a", File.mk "004_b.sql" "b"].map File.version).Nodup := by
    simp [File.version, numeral]
  obtain ⟨k, -, -, h⟩ :=
    migrations_once (Host.mk id fun script s => some (s ++ script)) hfiles "" [1, 2, 1]
  obtain ⟨db', hdb', -⟩ := h 2 le_rfl ⟨by simp [File.version, numeral], rfl⟩
  exact ⟨k, db', hdb'⟩

/-! ### The gateway -/

theorem ascending_byVersion {rows : List Row} (h : (rows.map Row.version).Nodup) :
    Ascending Row.version (byVersion rows) :=
  ascending_mergeSort (fun _ _ _ => rfl) h

/-- Rows are known from their columns. -/
theorem rows_ext {a b : List Row} (hversion : a.map Row.version = b.map Row.version)
    (hname : a.map Row.name = b.map Row.name)
    (hchecksum : a.map Row.checksum = b.map Row.checksum) : a = b := by
  induction a generalizing b with
  | nil => exact (List.map_eq_nil_iff.1 hversion.symm).symm
  | cons r a ih =>
      cases b with
      | nil => cases hversion
      | cons r' b =>
          rw [List.map_cons, List.map_cons, List.cons.injEq] at hversion hname hchecksum
          rw [Row.ext hversion.1 hname.1 hchecksum.1, ih hversion.2 hname.2 hchecksum.2]

/-- Where no version is noted twice, the rows in order are those required if they are the same in
some order. -/
theorem byVersion_eq_iff {rows : List Row} (h : (rows.map Row.version).Nodup) :
    byVersion rows = requiredMigrations ↔ rows.Perm requiredMigrations := by
  have hperm : (byVersion rows).Perm rows := List.mergeSort_perm _ _
  constructor
  · intro heq
    rw [heq] at hperm
    exact hperm.symm
  · intro hrows
    have hrequired : Ascending Row.version requiredMigrations := by
      unfold Ascending
      decide
    exact (ascending_byVersion h).ext hrequired fun row => (hperm.trans hrows).mem_iff

theorem schema_versions_eq {rows : List Row} (h : rows.Perm requiredMigrations) :
    (2 :: rows.map Row.version).mergeSort (· ≤ ·) = [2, 3, 4, 5, 6, 7, 8, 9, 10, 11] := by
  have hperm : (2 :: rows.map Row.version).Perm [2, 3, 4, 5, 6, 7, 8, 9, 10, 11] :=
    (h.map Row.version).cons 2
  have hsorted : Ascending id ((2 :: rows.map Row.version).mergeSort (· ≤ ·)) := by
    refine ascending_mergeSort (fun _ _ _ => rfl) ?_
    rw [List.map_id, hperm.nodup_iff]
    decide
  have hascending : Ascending id [2, 3, 4, 5, 6, 7, 8, 9, 10, 11] := by
    unfold Ascending
    decide
  exact hsorted.ext hascending fun v => ((List.mergeSort_perm _ _).trans hperm).mem_iff

/-- **A gateway starts exactly where what it requires has been run**, once each, whatever was
shipped. -/
theorem gateway_starts_iff (host : Host Script State) (dirs : List (List (File Script)))
    (rest₀ : State) :
    ∃ files, Migrated host rest₀ files (deploy host dirs (baseline rest₀)) ∧
      (assertSchemaVersion (deploy host dirs (baseline rest₀)) = true ↔
        (files.map host.row).Perm (requiredMigrations.map some)) := by
  obtain ⟨j, hdb, hj⟩ := tracks_deploy host dirs rest₀
  refine ⟨j.entries, hdb.migrated hj, ?_⟩
  generalize deploy host dirs (baseline rest₀) = db at hdb ⊢
  have hnodup : (db.schema_migrations.map Row.version).Nodup := by
    have := hdb.nodup
    rw [hdb.versions, List.nodup_cons] at this
    exact this.2
  rw [hdb.rows, List.map_perm_map_iff (Option.some_injective Row), ← byVersion_eq_iff hnodup]
  unfold assertSchemaVersion
  simp only [Bool.and_eq_true, decide_eq_true_eq]
  constructor
  · rintro ⟨⟨⟨-, hversion⟩, hname⟩, hchecksum⟩
    exact rows_ext hversion hname hchecksum
  · intro heq
    refine ⟨⟨⟨?_, by rw [heq]; rfl⟩, by rw [heq]⟩, by rw [heq]⟩
    rw [hdb.versions]
    exact schema_versions_eq ((byVersion_eq_iff hnodup).1 heq)

end Deploy
end SentinelMesh
