import ShadowLint.Config.Registry
import ShadowLint.Dump.File

/-!
Everything that can go wrong, in one type. Faults of the library have a report;
the rest are faults of files, and values of a sort that nothing was meant for.
-/

namespace ShadowLint

inductive Fault where
  | configuration (error : ConfigurationError)
  | setting (fault : SettingFault)
  | load (fault : LoadFault)
  | check (fault : CheckFault)

namespace SettingFault

def report? : SettingFault → Option Report
  | refused error => some error.report
  | _ => none

end SettingFault

namespace LoadFault

def report? : LoadFault → Option Report
  | dump source error => some (error.report source)
  | _ => none

end LoadFault

namespace CheckFault

def report? : CheckFault → Option Report
  | contract error => some error.report
  | template _ => none

end CheckFault

namespace Fault

def report? : Fault → Option Report
  | configuration error => some error.report
  | setting fault => fault.report?
  | load fault => fault.report?
  | check fault => fault.report?

def file? : Fault → Option FileFault
  | load (.file fault) => some fault
  | _ => none

end Fault

end ShadowLint
