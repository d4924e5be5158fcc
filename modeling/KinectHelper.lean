import KinectHelper.Framework.Run
import KinectHelper.Framework.Memory
import KinectHelper.Framework.Rounding
import KinectHelper.Framework.Iterate
import KinectHelper.Framework.Loop
import KinectHelper.Framework.Mailbox
import KinectHelper.Framework.Lock
import KinectHelper.Framework.TwoSmallest
import KinectHelper.Framework.Extent
import KinectHelper.Framework.Mean
import KinectHelper.Framework.SortedMap
import KinectHelper.Framework.Text
import KinectHelper.KinectTypes.VideoFrame
import KinectHelper.KinectTypes.Codec
import KinectHelper.KinectTypes.Reencode
import KinectHelper.KinectTypes.Packet
import KinectHelper.WxKinectHelper.ReadDepth
import KinectHelper.WxKinectHelper.LockedRects
import KinectHelper.WxKinectHelper.KinectGrabberFreenect
import KinectHelper.WxKinectHelper.DepthBuffers
import KinectHelper.WxKinectHelper.DeviceHash
import KinectHelper.Segmentation.CreatePointCloud
import KinectHelper.Segmentation.PayloadReads
import KinectHelper.Segmentation.PixelVisits
import KinectHelper.Segmentation.PclObjectDetector
import KinectHelper.Segmentation.DetectionHandOff
import KinectHelper.Segmentation.DetectionShutdown
import KinectHelper.Segmentation.DepthPath
import KinectHelper.Segmentation.FindClusters
import KinectHelper.Segmentation.ObjectVector
import KinectHelper.Segmentation.BoxesInFrame
import KinectHelper.Segmentation.NonZeroDepths
import KinectHelper.Segmentation.PlaneRemoval
import KinectHelper.ObjDetector.ObjectDetector
import KinectHelper.ObjDetector.FindPairs
import KinectHelper.ObjDetector.FlannPairs
import KinectHelper.ObjDetector.ObjectDefinition
import KinectHelper.ObjDetector.ImportedImage
import KinectHelper.ObjDetector.LocateObject
import KinectHelper.KinectServer.DetectObject
import KinectHelper.KinectServer.DataProcessor
import KinectHelper.KinectServer.DirListing
import KinectHelper.KinectServer.OnRequest
import KinectHelper.KinectServer.StoredFrames
import KinectHelper.KinectServer.ServerMain
import KinectHelper.KinectServer.ServerShutdown
import KinectHelper.KinectServer.HttpHeader
import KinectHelper.KinectServer.HttpNormalForm
import KinectHelper.KinectServer.HttpRoundTrip
import KinectHelper.KinectTest.KinectDataSender
import KinectHelper.KinectTest.SenderMailbox
import KinectHelper.KinectTest.SenderWakeup
import KinectHelper.KinectTest.KinectTestMainFrame
import KinectHelper.KinectTest.GrabbingSession
import KinectHelper.KinectTest.FailedStart
import KinectHelper.KinectTest.DeviceIndex
import KinectHelper.KinectTest.SkeletonForwarding
import KinectHelper.KinectTest.FreenectFrame
import KinectHelper.KinectTest.RegisteredGrabbers
import KinectHelper.KinectTest.StoppedSender
import KinectHelper.KinectServer.Transmission
import KinectHelper.Framework.Layout
import KinectHelper.Framework.Serial
import KinectHelper.KinectTypes.SkeletonFrame
import KinectHelper.WxKinectHelper.SkeletonPainter
import KinectHelper.Segmentation.FreenectCloud
import KinectHelper.ObjDetector.ColorPath
import KinectHelper.Segmentation.ObjectSnapshots
import KinectHelper.Framework.Float
import KinectHelper.Segmentation.FloatCamera
import KinectHelper.Framework.Incremental
import KinectHelper.Libevent.Chain
import KinectHelper.Libevent.Evbuffer
import KinectHelper.Libevent.EvbufferChains
import KinectHelper.Libevent.EvbufferMoves
import KinectHelper.Libevent.EvbufferRead
import KinectHelper.Libevent.EvbufferSearch
import KinectHelper.Libevent.EvbufferQueue
import KinectHelper.Libevent.Evhttp
import KinectHelper.Libevent.EvhttpConnection
import KinectHelper.Libevent.EvhttpDialogue
import KinectHelper.Libevent.EvhttpWire
import KinectHelper.KinectServer.WireTransmission
import KinectHelper.Framework.Multiplex
import KinectHelper.KinectServer.Clients
import KinectHelper.Libevent.EvhttpResponse
import KinectHelper.Libevent.EvhttpClient
import KinectHelper.KinectServer.ReplyStream
import KinectHelper.KinectServer.Exchange
import KinectHelper.KinectServer.ExchangeSteps
import KinectHelper.KinectServer.ExchangeRun
