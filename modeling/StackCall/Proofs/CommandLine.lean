import StackCall.Proofs.Listing
import StackCall.Proofs.Stack

set_option autoImplicit false

namespace StackCall.CommandLine

structure Report.Failed (report : Report) (exitCode : Nat) (fault : Fault) : Prop where
  exits : report.exitCode = exitCode
  silent : report.output = ""
  faulty : report.fault = some fault
  told : ∃ rest, report.notice = fault.code ++ rest

theorem Report.of_fault_failed (exitCode : Nat) (fault : Fault) :
    (Report.ofFault exitCode fault).Failed exitCode fault := by
  refine ⟨rfl, rfl, rfl, ?_⟩
  rw [Report.ofFault]
  exact ⟨_, by simp only [String.append_assoc]; rfl⟩

namespace Command

def operands (values : List String) : Stack := Stack.empty.pushAll (values.map Value.ofOperand)

def answer (registry : Registry) : Command → Except Fault Unit
  | .list => .ok ()
  | .info name _ | .doc name =>
      if registry.has name then .ok () else .error (.unknownFunction name)
  | .call name values => ((registry.call name).onStack (operands values)).1

variable (registry : Registry) (settings : Settings)

theorem find_answer {α : Type} (name : String) (write : Function → α) :
    (find registry name >>= fun function => pure (write function)).map (fun _ => ()) =
      if registry.has name then .ok () else .error (.unknownFunction name) := by
  rw [find, Registry.has, Entries.contains, ← Registry.get?]
  cases registry.get? name <;> rfl

theorem call_output_eq (name : String) (values : List String) :
    callOutput registry name values =
      ((registry.call name).onStack (operands values)).1.map fun _ =>
        ((registry.call name).onStack (operands values)).2.text := by
  have start : Stack.ofList (values.map Value.ofOperand) = operands values := by
    rw [operands, Stack.push_all_eq, Stack.ofList]
    exact congrArg Stack.mk (List.append_nil _).symm
  simp only [callOutput, start, listing_eq_text]

theorem output_answer (command : Command) :
    (command.output registry settings).map (fun _ => ()) = command.answer registry := by
  cases command with
  | list => rfl
  | info name json => exact find_answer registry name _
  | doc name => exact find_answer registry name _
  | call name values =>
      rw [output, answer, call_output_eq]
      cases ((registry.call name).onStack (operands values)).1 <;> rfl

end Command

namespace Invocation

variable {invocation : Invocation} {readFile : String → Option String}

theorem run_unloaded {fault : Fault} (unloaded : invocation.settings readFile = .error fault) :
    invocation.run readFile = Report.ofFault 2 fault := by
  rw [run, unloaded]

theorem run_refused {settings : Settings} {fault : Fault}
    (loaded : invocation.settings readFile = .ok settings)
    (refused : invocation.command.answer .standard = .error fault) :
    invocation.run readFile = Report.ofFault 1 fault := by
  rw [← Command.output_answer .standard settings] at refused
  rw [run, loaded]
  cases written : invocation.command.output .standard settings with
  | error other =>
      rw [written] at refused
      cases refused
      simp only [written]
  | ok text =>
      rw [written] at refused
      cases refused

theorem run_granted {settings : Settings} (loaded : invocation.settings readFile = .ok settings)
    (granted : invocation.command.answer .standard = .ok ()) :
    ∃ text, invocation.command.output .standard settings = .ok text ∧
      invocation.run readFile = ⟨0, text, none, ""⟩ := by
  rw [← Command.output_answer .standard settings] at granted
  cases written : invocation.command.output .standard settings with
  | error fault =>
      rw [written] at granted
      cases granted
  | ok text => exact ⟨text, rfl, by rw [run, loaded]; simp only [written]⟩

theorem run_exits_iff :
    (invocation.run readFile).exitCode = 0 ↔
      (∃ settings, invocation.settings readFile = .ok settings) ∧
        invocation.command.answer .standard = .ok () := by
  cases loaded : invocation.settings readFile with
  | error fault =>
      rw [run_unloaded loaded]
      simp [Report.ofFault]
  | ok settings =>
      cases answered : invocation.command.answer .standard with
      | error fault =>
          rw [run_refused loaded answered]
          simp [Report.ofFault]
      | ok _ =>
          obtain ⟨text, -, ran⟩ := run_granted loaded answered
          rw [ran]
          exact iff_of_true rfl ⟨⟨settings, rfl⟩, rfl⟩

end Invocation

theorem run_refines (invocation : Invocation) (readFile : String → Option String) :
    let report := invocation.run readFile
    let answer := invocation.command.answer .standard
    (∀ fault, invocation.settings readFile = .error fault → report.Failed 2 fault) ∧
      (∀ settings fault, invocation.settings readFile = .ok settings → answer = .error fault →
        report.Failed 1 fault) ∧
      (report.exitCode = 0 ↔
        (∃ settings, invocation.settings readFile = .ok settings) ∧ answer = .ok ()) ∧
      ∀ name values, invocation.command = .call name values → report.exitCode = 0 →
        ∃ stack, (Registry.standard.call name).onStack (Command.operands values) =
            (.ok (), stack) ∧
          report.output = stack.text ∧ stack.Listed report.output := by
  intro report answer
  refine ⟨?_, ?_, Invocation.run_exits_iff, ?_⟩
  · intro fault unloaded
    have ran : report = Report.ofFault 2 fault := Invocation.run_unloaded unloaded
    rw [ran]
    exact Report.of_fault_failed 2 fault
  · intro settings fault loaded refused
    have ran : report = Report.ofFault 1 fault := Invocation.run_refused loaded refused
    rw [ran]
    exact Report.of_fault_failed 1 fault
  · intro name values called exits
    obtain ⟨⟨settings, loaded⟩, granted⟩ := Invocation.run_exits_iff.mp exits
    obtain ⟨text, written, ran⟩ := Invocation.run_granted loaded granted
    rw [called] at granted written
    rw [Command.output, Command.call_output_eq] at written
    rw [Command.answer] at granted
    rw [granted] at written
    cases written
    have shown : report.output =
        ((Registry.standard.call name).onStack (Command.operands values)).2.text :=
      congrArg Report.output ran
    exact ⟨_, Prod.ext granted rfl, shown, shown ▸ Stack.text_listed _⟩

theorem run_refines_three_ways :
    let values := ["\"a\\nb\"", "x"]
    let report := Invocation.run ⟨none, .call "DEPTH" values⟩ fun _ => none
    (report.output = "3: 'a%0Ab'\n2: 'x'\n1: 2\n" ∧
      ∃ stack, (Registry.standard.call "DEPTH").onStack (Command.operands values) =
          (.ok (), stack) ∧
        report.output = stack.text ∧ stack.Listed report.output) ∧
      (Invocation.run ⟨none, .call "PAD" values⟩ fun _ => none).Failed 1 (.expectedMap "PAD") ∧
      (Invocation.run ⟨some "absent", .list⟩ fun _ => none).Failed 2
        (.settings (.unreadable "absent")) := by
  intro values report
  have exits : report.exitCode = 0 := by decide +kernel
  have shown : report.output = "3: 'a%0Ab'\n2: 'x'\n1: 2\n" := by decide +kernel
  obtain ⟨-, -, -, called⟩ := run_refines ⟨none, .call "DEPTH" values⟩ fun _ => none
  obtain ⟨-, refused, -⟩ := run_refines ⟨none, .call "PAD" values⟩ fun _ => none
  obtain ⟨unloaded, -⟩ := run_refines ⟨some "absent", .list⟩ fun _ => none
  exact ⟨⟨shown, called "DEPTH" values rfl exits⟩, refused {} _ rfl rfl, unloaded _ rfl⟩

end StackCall.CommandLine
