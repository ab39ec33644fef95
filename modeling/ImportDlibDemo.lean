import ImportDlibDemo.Library.GuardedRun
import ImportDlibDemo.Library.Truncation
import ImportDlibDemo.Library.SparseArray
import ImportDlibDemo.Library.StreamLoop
import ImportDlibDemo.Library.PlaneBox
import ImportDlibDemo.Library.AspectFit
import ImportDlibDemo.Library.Base128
import ImportDlibDemo.Library.CountedLoop
import ImportDlibDemo.Library.LittleEndianWord
import ImportDlibDemo.Android.Graphics
import ImportDlibDemo.Data.DLibFace68
import ImportDlibDemo.View.FaceLandmarksOverlayView
import ImportDlibDemo.Detector.GoogleVisionAndDlibLandmarkDetector
import ImportDlibDemo.Detector.FrameTransform
import ImportDlibDemo.Detector.FrameToOverlay
import ImportDlibDemo.Dlib.Array2d
import ImportDlibDemo.Dlib.DetectorFile
import ImportDlibDemo.Dlib.Models
import ImportDlibDemo.NativeLib.ConvertBitmap
import ImportDlibDemo.NativeLib.ConvertBitmapChannels
import ImportDlibDemo.NativeLib.EntryPoints
import ImportDlibDemo.NativeLib.ConversionContainment
import ImportDlibDemo.NativeLib.LandmarksInstallation
import ImportDlibDemo.Utils.CopyAssets
import ImportDlibDemo.Utils.CopyAssetsRuns
import ImportDlibDemo.View.CameraSourcePreview
import ImportDlibDemo.View.PendingStart
import ImportDlibDemo.View.DrawInterleaving
import ImportDlibDemo.View.PreviewAgreement
import ImportDlibDemo.View.LastRequestedCamera
import ImportDlibDemo.View.OverlayScaling
import ImportDlibDemo.View.PreviewFit
import ImportDlibDemo.Library.BinaryFloat
import ImportDlibDemo.Library.ListLoops
import ImportDlibDemo.Data.LandmarkBound
import ImportDlibDemo.Data.LandmarkParts
import ImportDlibDemo.Detector.AdjustedBound
import ImportDlibDemo.NativeLib.UnpreparedDetection
import ImportDlibDemo.Detector.DLibLandmarks68Detector
import ImportDlibDemo.Detector.DetectionPaths
import ImportDlibDemo.Dlib.FloatSerialization
import ImportDlibDemo.Dlib.ObjectDetection
import ImportDlibDemo.Dlib.PredictorFile
import ImportDlibDemo.Dlib.ShapePrediction
import ImportDlibDemo.NativeLib.InstalledModel
import ImportDlibDemo.Data.GeneratedMessages
import ImportDlibDemo.Detector.DlibDetector
import ImportDlibDemo.Detector.InstalledApp
import ImportDlibDemo.Detector.PhotoScreen
import ImportDlibDemo.Dlib.FhogGeometry
