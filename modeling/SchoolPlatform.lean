import SchoolPlatform.Analysis.TheoremSummaries
import SchoolPlatform.Analysis.BridgeAnswers
import SchoolPlatform.Analysis.TheoremArrivals
import SchoolPlatform.Analysis.TheoremArrivalRaces
import SchoolPlatform.Analysis.TheoremSeats
import SchoolPlatform.Analysis.TheoremSettledJobs
import SchoolPlatform.Analysis.TheoremPlanLimits
import SchoolPlatform.Analysis.TheoremMerge
import SchoolPlatform.Analysis.TheoremSectionOrder
import SchoolPlatform.Analysis.TheoremFrozenDays
import SchoolPlatform.Analysis.TheoremAbsenceSms
import SchoolPlatform.Analysis.TheoremDocuments
import SchoolPlatform.Analysis.TheoremDocumentFailures
import SchoolPlatform.Analysis.TheoremIssuedWarnings
import SchoolPlatform.Analysis.TheoremSuspendedSchools
import SchoolPlatform.Analysis.TheoremSyncRaces
import SchoolPlatform.Analysis.TheoremFreePlans
import SchoolPlatform.Analysis.TheoremPlatformUsage
import SchoolPlatform.Analysis.TheoremEntitlementCache
import SchoolPlatform.Analysis.TheoremSessionAudit
import SchoolPlatform.Analysis.TheoremGateReleases
import SchoolPlatform.Analysis.TheoremLastManager
import SchoolPlatform.Analysis.TheoremScopes
import SchoolPlatform.Analysis.TheoremStaffImport
import SchoolPlatform.Analysis.TheoremOneLiveCase
import SchoolPlatform.Analysis.TheoremReferrals
import SchoolPlatform.Analysis.TheoremMobileNumbers
import SchoolPlatform.Analysis.TheoremStudentIdentifiers
import SchoolPlatform.Analysis.TheoremSmsPreview
import SchoolPlatform.Analysis.TheoremFamilyDays
import SchoolPlatform.Analysis.TheoremDashboard
import SchoolPlatform.Analysis.TheoremExcuseApproval
import SchoolPlatform.Analysis.TheoremRenewalMails
import SchoolPlatform.Analysis.TheoremBackups
import SchoolPlatform.Analysis.TheoremDashboardCache
import SchoolPlatform.Analysis.TheoremDailyCounters
import SchoolPlatform.Analysis.TheoremDailyReport
import SchoolPlatform.Analysis.TheoremEligibility
import SchoolPlatform.Analysis.TheoremNoorReport
import SchoolPlatform.Analysis.TheoremBulkArrivals
import SchoolPlatform.Analysis.TheoremCalendarRepeats
import SchoolPlatform.Analysis.TheoremDashboardRanges
import SchoolPlatform.Analysis.TheoremPeriods
import SchoolPlatform.Analysis.TheoremSchoolPurge
import SchoolPlatform.Analysis.TheoremBackupRetention
import SchoolPlatform.Analysis.TheoremScanKeys
import SchoolPlatform.Analysis.TheoremDurations
import SchoolPlatform.Analysis.TheoremDeviceRoster
