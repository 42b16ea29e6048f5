import ZenOS.Library.Shell

/-!
`tools/verify-quality-gates.sh`: the gates, the checks behind them, and `main`.  What
the commands of the checks do is left to the host; log texts and timings are left out.
-/

namespace ZenOS.QualityGates

open ZenOS.Library.Shell

/-- The gates of the registries, and the two checks that `main` makes itself. -/
inductive GateId where
  | zenTest
  | p001 | p002 | p003 | p004 | p005 | p006 | p007 | p008 | p009 | p010 | p011 | p012
  | p013 | p014 | p015
  | p1h01 | p1h02 | p1h03
  | imageBuild
  | p1v01 | p1v02 | p1v03 | p1v04
  deriving DecidableEq

inductive Variable where
  | count
  | size
  deriving DecidableEq

structure Command where
  gate : GateId
  argv : String
  deriving DecidableEq

def GateId.pipeline (g : GateId) (first : String) (rest : List String) :
    Pipeline Command :=
  ⟨⟨g, first⟩, rest.map (Command.mk g)⟩

/-- Commands of a gate's check, joined by `&&`. -/
def GateId.commands (g : GateId) (first : String) (rest : List String) :
    Script Command Variable :=
  .all (g.pipeline first []) (rest.map fun argv => g.pipeline argv [])

def GateId.cd (g : GateId) : Pipeline Command :=
  g.pipeline "cd ${WSL_REPO}" []

/-- `wsl_run`: the text of the check goes behind `cd ${WSL_REPO} &&`. -/
def wslRun (g : GateId) (check : Script Command Variable) : Script Command Variable :=
  .cond (.pipe (g.pipeline "grep -qi microsoft /proc/version" []))
    (.bash (check.after g.cd))
    (.and (.pipe (g.pipeline "wsl -d Ubuntu --" [])) (.bash (check.after g.cd)))

/-- What the host gates give to `wsl_run`. -/
def hostCheck : GateId → Script Command Variable
  | .p001 => .pipe (GateId.p001.pipeline "meson setup builddir --wipe" ["tail -20"])
  | .p002 => .pipe (GateId.p002.pipeline "meson compile -C builddir" ["tail -20"])
  | .p003 => .pipe (GateId.p003.pipeline "meson test -C builddir" ["tail -20"])
  | .p004 => GateId.p004.commands "xmllint --noout data/dbus/*.xml" []
  | .p005 =>
      .all (GateId.p005.pipeline ("ls data/systemd/zenos-compositor.service " ++
          "data/systemd/zenos-resource-manager.service " ++
          "data/systemd/zenos-privacy-guard.service " ++
          "data/systemd/zenos-update-manager.service " ++
          "data/systemd/zenos-package-manager.service " ++
          "data/systemd/zenos-boot-check.service data/systemd/zenos-headless.target " ++
          "data/systemd/zenos-session@.service") [])
        [GateId.p005.pipeline "grep -l \"\\[Unit\\]\" data/systemd/*.service"
            ["wc -l", "grep -q 7"],
          GateId.p005.pipeline "grep -q AllowIsolate=yes data/systemd/zenos-headless.target" []]
  | .p006 =>
      .all (GateId.p006.pipeline "ls data/apparmor/"
          ["wc -l", "grep -qE \"^[6-9]|^[0-9]{2}\""])
        [GateId.p006.pipeline "grep -l profile data/apparmor/*" ["wc -l", "grep -q 6"]]
  | .p007 =>
      GateId.p007.commands
        "grep -q \"table inet filter\" data/nftables/zenos-firewall.nft"
        ["grep -q \"chain input\" data/nftables/zenos-firewall.nft",
          "grep -q \"chain output\" data/nftables/zenos-firewall.nft"]
  | .p008 =>
      .seq (.assign .count
          (GateId.p008.pipeline "grep -c polkit.addRule data/polkit/50-zenos.rules" []))
        (.test .count .ge 3)
  | .p009 =>
      GateId.p009.commands "grep -q ALGORITHM=lz4 data/zram/zenos-zram.conf"
        ["grep -q SIZE=50 data/zram/zenos-zram.conf"]
  | .p010 =>
      .seq (.and (.pipe (GateId.p010.pipeline
            "grep -q \"Name=Zen OS\" data/branding/icons/index.theme" []))
          (.assign .count (GateId.p010.pipeline
            "find data/branding/icons/hicolor -type d" ["wc -l"])))
        (.test .count .ge 40)
  | .p011 =>
      GateId.p011.commands "python3 -m json.tool data/browser/policies.json"
        ["grep -q DisableTelemetry data/browser/policies.json",
          "grep -q toolkit.telemetry data/browser/user.js",
          "grep -qc \"\x7b\" data/browser/userChrome.css"]
  | .p012 =>
      GateId.p012.commands "grep -qi branch docs/CONTRIBUTING.md"
        ["grep -qi commit docs/CONTRIBUTING.md", "grep -qi style docs/CONTRIBUTING.md",
          "grep -qi test docs/CONTRIBUTING.md"]
  | .p013 =>
      .seq (.assign .count (GateId.p013.pipeline "grep -c ADR docs/architecture/README.md" []))
        (.test .count .ge 4)
  | .p014 =>
      GateId.p014.commands "grep -q \"jobs:\" .github/workflows/ci.yml"
        ["grep -q \"IndentWidth: 4\" .clang-format",
          "grep -q \"ColumnLimit: 100\" .clang-format"]
  | .p015 =>
      .seq (.assign .count (GateId.p015.pipeline "find src -name meson.build" ["wc -l"]))
        (.test .count .ge 10)
  | .p1h01 => .pipe (GateId.p1h01.pipeline "meson test -C builddir test_xdg" ["tail -20"])
  | .p1h02 => .pipe (GateId.p1h02.pipeline "meson test -C builddir test_input" ["tail -20"])
  | .p1h03 =>
      .pipe (GateId.p1h03.pipeline "ASAN_OPTIONS=detect_leaks=1 meson test -C builddir"
        ["grep -cE \"ERROR: (AddressSanitizer|LeakSanitizer)\"", "grep -q ^0"])
  | _ => .nop

/-- The gate file of a VM gate. -/
def vmToml : GateId → String
  | .p1v01 => "tools/zen-test/gates/common/boot-baseline.toml"
  | .p1v02 => "tools/zen-test/gates/phase1/1.2-surface-protocols.toml"
  | .p1v03 => "tools/zen-test/gates/phase1/1.3-xdg-shell.toml"
  | .p1v04 => "tools/zen-test/gates/phase1/1.4-input-routing.toml"
  | _ => ""

/-- `${ZEN_TEST} gate run ${abs_toml} ... 2>&1 | tail -5` -/
def vmPipeline (g : GateId) : Pipeline Command :=
  g.pipeline ("${ZEN_TEST} gate run ${REPO_ROOT}/" ++ vmToml g) ["tail -5"]

/-- The command of a gate: what `run_check` evaluates, or what `run_vm_gate` runs. -/
def gateCommand : GateId → Script Command Variable
  | .zenTest =>
      .all (GateId.zenTest.pipeline "test -f ${ZEN_TEST}" [])
        [GateId.zenTest.pipeline "${ZEN_TEST} version"
          ["grep -q '\"name\":\"zen-test\"'"]]
  | .imageBuild =>
      .seq (.and (.pipe (GateId.imageBuild.pipeline "test -f ${IMAGE_PATH}" []))
          (.assign .size (GateId.imageBuild.pipeline "du -m ${IMAGE_PATH}" ["cut -f1"])))
        (.test .size .gt 100)
  | .p1v01 => .pipe (vmPipeline .p1v01)
  | .p1v02 => .pipe (vmPipeline .p1v02)
  | .p1v03 => .pipe (vmPipeline .p1v03)
  | .p1v04 => .pipe (vmPipeline .p1v04)
  | g => wslRun g (hostCheck g)

inductive GateStatus where
  | pass
  | fail
  | skip
  deriving DecidableEq

/-- A line of `gate-results.jsonl`. -/
structure GateResult where
  gate : GateId
  status : GateStatus
  exitCode : Option Nat
  deriving DecidableEq

/-- The state that `main` tracks. -/
structure Tracking where
  resultsFile : List GateResult
  compileFailed : Bool
  zenTestFailed : Bool
  imageBuildFailed : Bool
  totalGates : Nat
  passedGates : Nat
  failedGates : Nat
  skippedGates : Nat

/-- What the script meets: its commands, and the statuses with which
`convert_screenshots` and `generate_report` return. -/
structure Host where
  world : World Command Variable
  convertScreenshots : GateId → Nat
  generateReport : Nat

/-- The shell of the script, after `set -euo pipefail`. -/
def scriptShell : Options :=
  { judge := pipefail, nounset := true }

/-- What `bash -c` starts; it does not inherit the options. -/
def childShell : Options :=
  { judge := lastStatus, nounset := false }

def recordResult (t : Tracking) (gate : GateId) (status : GateStatus)
    (exitCode : Option Nat) : Tracking :=
  { t with
    resultsFile := t.resultsFile ++ [⟨gate, status, exitCode⟩]
    totalGates := t.totalGates + 1
    passedGates := if status = .pass then t.passedGates + 1 else t.passedGates
    failedGates := if status = .fail then t.failedGates + 1 else t.failedGates
    skippedGates := if status = .skip then t.skippedGates + 1 else t.skippedGates }

/-- The `exit_code` that `run_check` takes from `eval`. -/
def checkExitCode (W : World Command Variable) (gate : GateId) : Nat :=
  exitStatus (exec W scriptShell childShell (gateCommand gate) W.fresh)

/-- `run_check`, which returns whether the check passes. -/
def runCheck (W : World Command Variable) (t : Tracking) (gate : GateId) :
    Tracking × Bool :=
  let exitCode := checkExitCode W gate
  if exitCode = 0 then (recordResult t gate .pass (some exitCode), true)
  else (recordResult t gate .fail (some exitCode), false)

def skipGate (t : Tracking) (gate : GateId) : Tracking :=
  recordResult t gate .skip none

/-- The `exit_code` of `run_vm_gate`: `${PIPESTATUS[0]}` after the pipeline and its
`|| true`. -/
def vmExitCode (W : World Command Variable) (gate : GateId) : Nat :=
  match exec W scriptShell childShell (.or (.pipe (vmPipeline gate)) .nop) W.fresh with
  | .ok (_, s) => s.pipestatus.headD 0
  | .error status => status

/-- `run_vm_gate`, which counts the gate before `record_result` counts it again.  The
second component is the status of `convert_screenshots`, at which `set -e` looks. -/
def runVmGate (h : Host) (t : Tracking) (gate : GateId) : Tracking × Nat :=
  let exitCode := vmExitCode h.world gate
  let t := { t with totalGates := t.totalGates + 1 }
  if exitCode = 0 then
    let t := { t with passedGates := t.passedGates + 1 }
    (recordResult t gate .pass (some exitCode), h.convertScreenshots gate)
  else
    let t := { t with failedGates := t.failedGates + 1 }
    (recordResult t gate .fail (some exitCode), 0)

def phase0Gates : List GateId :=
  [.p001, .p002, .p003, .p004, .p005, .p006, .p007, .p008, .p009, .p010, .p011, .p012,
    .p013, .p014, .p015]

def phase1HostGates : List GateId :=
  [.p1h01, .p1h02, .p1h03]

def vmGates : List GateId :=
  [.p1v01, .p1v02, .p1v03, .p1v04]

structure Flags where
  skipVm : Bool
  skipImageBuild : Bool

def runPhase0Gate (W : World Command Variable) (t : Tracking) (gate : GateId) : Tracking :=
  let (t, ok) := runCheck W t gate
  if !ok && gate = .p002 then { t with compileFailed := true } else t

def runPhase1Gate (W : World Command Variable) (t : Tracking) (gate : GateId) : Tracking :=
  (runCheck W t gate).1

def checkZenTest (W : World Command Variable) (t : Tracking) : Tracking :=
  let (t, ok) := runCheck W t .zenTest
  if !ok then { t with zenTestFailed := true } else t

def checkImage (flags : Flags) (W : World Command Variable) (t : Tracking) : Tracking :=
  if flags.skipImageBuild then { t with imageBuildFailed := true }
  else if t.compileFailed then { skipGate t .imageBuild with imageBuildFailed := true }
  else
    let (t, ok) := runCheck W t .imageBuild
    if !ok then { t with imageBuildFailed := true } else t

/-- The loop over the VM gates; a status that is not zero ends the script. -/
def runVmGates (h : Host) : Tracking → List GateId → Tracking × Nat
  | t, [] => (t, 0)
  | t, gate :: gates =>
      let (t, status) := runVmGate h t gate
      if status = 0 then runVmGates h t gates else (t, status)

def runVmStage (flags : Flags) (h : Host) (t : Tracking) : Tracking × Nat :=
  if flags.skipVm || t.zenTestFailed || t.imageBuildFailed then
    (vmGates.foldl skipGate t, 0)
  else runVmGates h t vmGates

def Tracking.start : Tracking :=
  { resultsFile := [], compileFailed := false, zenTestFailed := false
    imageBuildFailed := false, totalGates := 0, passedGates := 0, failedGates := 0
    skippedGates := 0 }

/-- The tracked state in front of the VM stage. -/
def runHostStages (flags : Flags) (W : World Command Variable) : Tracking :=
  let t := checkZenTest W .start
  let t := phase0Gates.foldl (runPhase0Gate W) t
  let t := phase1HostGates.foldl (runPhase1Gate W) t
  checkImage flags W t

/-- What is left of a run: what it tracked, and its exit status. -/
structure Outcome where
  tracking : Tracking
  exit : Nat

def main (flags : Flags) (h : Host) : Outcome :=
  let (t, status) := runVmStage flags h (runHostStages flags h.world)
  if status ≠ 0 then ⟨t, status⟩
  else if h.generateReport ≠ 0 then ⟨t, h.generateReport⟩
  else ⟨t, if 0 < t.failedGates then 1 else 0⟩

end ZenOS.QualityGates
