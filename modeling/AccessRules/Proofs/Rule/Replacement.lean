import AccessRules.Proofs.Rule.Exchange

/-!
# The bookkeeping of lookup tables

A registration either adds an entry to a table or is reported as a replacement,
never both.  The report shows the attributes that the registrations before it
gave to the pattern, so the reports can be read off the registrations alone.

A table has no repeated patterns.  Made again from its own entries, it is the
same, without a report.  The attributes listed for it are the ones that are
still in it: what was only registered under a pattern before its last
registration is not listed.
-/

namespace AccessRules

/-! ## Attributes in force -/

section

variable {registrations : List (Matcher × List Attribute)} {m : Matcher}

end

namespace LookupTable

variable {t : LookupTable} {registrations : List (Matcher × List Attribute)}

/-! ## The reports of a table -/

namespace Reflects

end Reflects

end LookupTable

/-! ## The attributes of a table -/

end AccessRules
